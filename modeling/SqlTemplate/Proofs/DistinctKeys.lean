import Mathlib.Data.List.Nodup
import SqlTemplate.Proofs.Reading
import SqlTemplate.Toml.Complaint

/-! # No key comes twice in the table of a document

Two entries of one name would let what is read depend on which of them is looked at first. Each
change to an assembly looks for its key before it adds one, so whatever a text has in it, the
entries at the root of its document have names of their own.
-/
namespace SqlTemplate.Toml

theorem bind_eq_ok_iff {ε α β : Type} {x : Except ε α} {f : α → Except ε β} {b : β} :
    x >>= f = .ok b ↔ ∃ a, x = .ok a ∧ f a = .ok b := by
  cases x with
  | ok a => simp [bind, Except.bind]
  | error e => simp [bind, Except.bind]

section Entries

variable {es es' : Entries} {key : Key} {name : Text} {node : Node}

/-- No two entries have one name. -/
def Entries.Distinct (es : Entries) : Prop := (es.map fun e => e.1.name).Nodup

theorem Entries.distinct_nil : Entries.Distinct [] := List.nodup_nil

theorem Entries.ne_of_get?_eq_none (h : Entries.get? es name = none) :
    ∀ e ∈ es, e.1.name ≠ name := by
  intro e he
  have hne := List.find?_eq_none.mp h e he
  simpa using hne

theorem Entries.Distinct.add (h : es.Distinct) (fresh : Entries.get? es key.name = none) :
    Entries.Distinct (es ++ [(key, node)]) := by
  have hnew : key.name ∉ es.map fun e => e.1.name := by
    rw [List.mem_map]
    rintro ⟨e, he, hname⟩
    exact Entries.ne_of_get?_eq_none fresh e he hname
  rw [Entries.Distinct, List.map_append]
  exact List.nodup_append_comm.mp (List.nodup_cons.mpr ⟨hnew, h⟩)

theorem Entries.names_replace (es : Entries) (name : Text) (node : Node) :
    (es.replace name node).map (fun e => e.1.name) = es.map fun e => e.1.name := by
  rw [Entries.replace, List.map_map]
  apply List.map_congr_left
  intro e _
  simp only [Function.comp_apply]
  split <;> rfl

theorem Entries.Distinct.replace (h : es.Distinct) : (es.replace name node).Distinct := by
  rw [Entries.Distinct, Entries.names_replace]
  exact h

theorem Entries.Distinct.erase (h : es.Distinct) : (es.erase name).Distinct :=
  List.Nodup.sublist (List.filter_sublist.map _) h

/-- What a path leads through stays under its key, or is made under a fresh one. The change itself
counts only where the path is at its end. -/
theorem Entries.Distinct.of_changeAt {α : Type} {way : Way}
    {change : Origin → Entries → Except Cause (α × Entries)} {passed path : List Key}
    {origin : Origin} {a : α} (h : es.Distinct)
    (hchange : changeAt way change passed path origin es = .ok (a, es'))
    (keeps : ∀ o b fs, change o es = .ok (b, fs) → fs.Distinct) : es'.Distinct := by
  cases path with
  | nil => exact keeps origin a es' hchange
  | cons k path =>
    rw [changeAt] at hchange
    split at hchange
    case h_1 fresh =>
      obtain ⟨_, -, hsub⟩ := bind_eq_ok_iff.mp hchange
      cases hsub
      exact h.add fresh
    case h_2 =>
      split at hchange
      · cases hchange
      · obtain ⟨_, -, hsub⟩ := bind_eq_ok_iff.mp hchange
        cases hsub
        exact h.replace
    case h_3 =>
      split at hchange
      · obtain ⟨_, -, hsub⟩ := bind_eq_ok_iff.mp hchange
        cases hsub
        exact h.replace
      · cases hchange
    case h_4 => cases hchange

end Entries

namespace Assembly

variable {a a' : Assembly} {path : List Key} {key : Key} {node : Node} {span : Span}
  {es : Entries}

/-- The entries are those of the root while no header has come. -/
structure Distinct (a : Assembly) : Prop where
  root : a.root.Distinct
  entries : a.path = [] → a.entries.Distinct

theorem distinct_empty : empty.Distinct := ⟨Entries.distinct_nil, fun _ => Entries.distinct_nil⟩

theorem splitLast?_eq_none_iff : splitLast? path = none ↔ path = [] := by
  simp [splitLast?]

theorem Distinct.close (h : a.Distinct) (hclose : a.close = .ok (es, span)) : es.Distinct := by
  rw [Assembly.close] at hclose
  split at hclose
  case h_1 hpath =>
    cases hclose
    exact h.entries (splitLast?_eq_none_iff.mp hpath)
  case h_2 parent key _ =>
    obtain ⟨⟨_, fs⟩, hchange, heq⟩ := bind_eq_ok_iff.mp hclose
    cases heq
    apply h.root.of_changeAt hchange
    intro _ _ fs hinsert
    split at hinsert
    case h_1 fresh =>
      cases hinsert
      exact h.root.add fresh
    case h_2 =>
      split at hinsert
      · cases hinsert
        exact h.root.replace
      · cases hinsert
    case h_3 => cases hinsert

theorem Distinct.add (h : a.Distinct) (hadd : a.add path key node = .ok a') : a'.Distinct := by
  obtain ⟨entries, hentries, heq⟩ := bind_eq_ok_iff.mp hadd
  cases heq
  refine ⟨h.root, ?_⟩
  intro hpath
  obtain ⟨⟨_, fs⟩, hchange, heq⟩ := bind_eq_ok_iff.mp hentries
  cases heq
  have hdistinct : a.entries.Distinct := h.entries hpath
  apply hdistinct.of_changeAt hchange
  intro _ _ fs hfs
  split at hfs
  · cases hfs
  · split at hfs
    case isTrue => cases hfs
    case isFalse fresh =>
      cases hfs
      exact hdistinct.add (by simpa using fresh)

/-- Below a header the entries are a table's of their own. -/
theorem distinct_below {root : Entries} {rootSpan : Span} {repeated : Bool} {r : List Key × Key}
    (hroot : root.Distinct) (hpath : splitLast? path = some r) :
    Assembly.Distinct ⟨root, rootSpan, path, repeated, span, es⟩ := by
  refine ⟨hroot, ?_⟩
  rintro rfl
  cases hpath

theorem Distinct.openTable (h : a.Distinct) (hopen : a.openTable path span = .ok a') :
    a'.Distinct := by
  obtain ⟨⟨root, rootSpan⟩, hclose, hnext⟩ := bind_eq_ok_iff.mp hopen
  have hroot : root.Distinct := h.close hclose
  dsimp only at hnext
  split at hnext
  case h_1 =>
    cases hnext
    exact ⟨hroot, h.entries⟩
  case h_2 parent key hpath =>
    obtain ⟨⟨_, fs⟩, hchange, heq⟩ := bind_eq_ok_iff.mp hnext
    cases heq
    refine distinct_below (hroot.of_changeAt hchange ?_) hpath
    intro _ _ fs htake
    split at htake
    · cases htake
      exact hroot
    · cases htake
      exact hroot.erase
    · cases htake

theorem Distinct.openRepeated (h : a.Distinct) (hopen : a.openRepeated path span = .ok a') :
    a'.Distinct := by
  obtain ⟨⟨root, rootSpan⟩, hclose, hnext⟩ := bind_eq_ok_iff.mp hopen
  have hroot : root.Distinct := h.close hclose
  dsimp only at hnext
  split at hnext
  case h_1 =>
    cases hnext
    exact ⟨hroot, h.entries⟩
  case h_2 parent key hpath =>
    obtain ⟨⟨_, fs⟩, hchange, heq⟩ := bind_eq_ok_iff.mp hnext
    cases heq
    refine distinct_below (hroot.of_changeAt hchange ?_) hpath
    intro _ _ fs hcheck
    split at hcheck
    · cases hcheck
      exact hroot
    · cases hcheck
      exact hroot
    · cases hcheck

end Assembly

namespace Reader

variable {α β : Type} {r : Reader α} {f : α → Reader β} {P : α → Prop} {Q : β → Prop}

/-- What the reader gives is as described, wherever it reads. -/
def Yields (r : Reader α) (P : α → Prop) : Prop := ∀ c a c', r c = .ok (a, c') → P a

theorem yields_pure {a : α} (h : P a) : Yields (pure a) P := by
  rintro c _ _ ⟨⟩
  exact h

theorem yields_fail : Yields fail P := by
  rintro c _ _ ⟨⟩

theorem Yields.bind (h : Yields r P) (next : ∀ a, P a → Yields (f a) Q) :
    Yields (r >>= f) Q := by
  intro c b c' hb
  rw [bind_apply] at hb
  split at hb
  case h_1 a c₁ ha => exact next a (h c a c₁ ha) c₁ b c' hb
  case h_2 => cases hb

/-- Whatever the first reader gives. -/
theorem yields_bind (next : ∀ a, Yields (f a) Q) : Yields (r >>= f) Q :=
  Yields.bind (P := fun _ => True) (fun _ _ _ _ => trivial) fun a _ => next a

theorem Yields.mapFailure {g : Failure → Failure} (h : Yields r P) : Yields (mapFailure g r) P := by
  intro c a c' ha
  rw [Reader.mapFailure] at ha
  split at ha
  case h_1 _ heq =>
    cases ha
    exact h c a c' heq
  case h_2 => cases ha

theorem Yields.commit (h : Yields r P) : Yields (commit r) P := h.mapFailure

theorem Yields.inside {k : Construct} (h : Yields r P) : Yields (inside k r) P := h.mapFailure

theorem Yields.convert {g : α → Except Cause β} (h : Yields r P)
    (hg : ∀ a b, P a → g a = .ok b → Q b) : Yields (convert g r) Q := by
  intro c b c' hb
  rw [Reader.convert] at hb
  split at hb
  case h_1 => cases hb
  case h_2 a c₁ ha =>
    split at hb
    case h_1 b₁ hb₁ =>
      cases hb
      exact hg a b (h c a c' ha) hb₁
    case h_2 => cases hb

/-- Whatever is converted. -/
theorem yields_convert {g : α → Except Cause β} (hg : ∀ a b, g a = .ok b → Q b) :
    Yields (Reader.convert g r) Q :=
  Yields.convert (P := fun _ => True) (fun _ _ _ _ => trivial) fun a b _ => hg a b

end Reader

section Documents

open Reader

variable {a : Assembly}

theorem yields_tableHeader (h : a.Distinct) : Yields (tableHeader a) Assembly.Distinct := by
  apply Yields.inside
  apply yields_bind
  intro t
  split
  · apply yields_convert
    intro _ _
    exact h.openRepeated
  · apply yields_convert
    intro _ _
    exact h.openTable
  · exact yields_fail

theorem yields_entry (h : a.Distinct) : Yields (entry a) Assembly.Distinct := by
  apply yields_convert
  intro _ _
  exact h.add

theorem yields_lines (n : Nat) (h : a.Distinct) : Yields (lines n a) Assembly.Distinct := by
  induction n generalizing a with
  | zero => exact yields_pure h
  | succ n ih =>
    apply yields_bind
    intro next
    split
    case h_1 => exact yields_pure h
    case h_2 =>
      exact yields_bind fun _ => yields_bind fun _ => ih h
    case h_3 =>
      refine (yields_tableHeader h).commit.bind ?_
      intro a' h'
      exact yields_bind fun _ => ih h'
    case h_4 | h_5 =>
      apply yields_bind
      intro end?
      cases end? with
      | none => exact yields_pure h
      | some _ => exact yields_bind fun _ => ih h
    case h_6 =>
      refine (yields_entry h).commit.bind ?_
      intro a' h'
      exact yields_bind fun _ => ih h'

theorem yields_documentText : Yields documentText Assembly.Distinct := by
  apply yields_bind
  intro _
  apply yields_bind
  intro _
  apply yields_bind
  intro rest
  refine (yields_lines rest.length Assembly.distinct_empty).bind ?_
  intro a h
  exact yields_bind fun _ => yields_pure h

/-- A document is a table, and no key comes twice in it. -/
def IsDocument (node : Node) : Prop :=
  ∃ es : Entries, node.value = .table .header es ∧ Entries.Distinct es

theorem yields_document : Yields document IsDocument := by
  refine yields_documentText.convert ?_
  intro a node h hnode
  obtain ⟨⟨es, span⟩, hclose, heq⟩ := bind_eq_ok_iff.mp hnode
  cases heq
  exact ⟨es, rfl, h.close hclose⟩

theorem isDocument_of_read {t : Text} {d : Node} (h : read t = .ok d) : IsDocument d := by
  rw [read] at h
  split at h
  case h_1 d' c heq =>
    cases h
    exact yields_document _ _ _ heq
  case h_2 => cases h

end Documents

end SqlTemplate.Toml
