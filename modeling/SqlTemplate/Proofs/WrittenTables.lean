import SqlTemplate.Proofs.WrittenDocuments

/-! # A document reads as the tables that were written

Each table has a header of one bare key and entries below it. A header completes the table above it,
so what has been read is said of a document that would end there.
-/
namespace SqlTemplate.Toml

open Reader

variable {name w rest : Text} {n : Nat} {a : Assembly} {Q : Assembly → Prop}

def emptyLines (gap : Nat) : Text := List.replicate gap '\n'

theorem takes_lines_emptyLines (gap : Nat) (starts : ∀ c ∈ (w ++ rest).head?, isBlank c = false)
    (next : Takes (lines n a) w rest Q) :
    Takes (lines (n + gap) a) (emptyLines gap ++ w) rest Q := by
  induction gap with
  | zero => exact next
  | succ gap ih =>
    have hblank : Exhausts isBlank [] (emptyLines gap ++ w ++ rest) := by
      apply exhausts_nil
      cases gap with
      | zero => exact starts
      | succ gap =>
        rintro _ ⟨⟩
        rfl
    apply takes_peek?.look
    show Takes _ (['\n'] ++ (emptyLines gap ++ w)) rest Q
    apply takes_newline.optional.bind
    rintro _ ⟨_, rfl, -⟩
    exact (takes_blanks hblank).look ih

section Headers

/-- A header of one bare key, on a line of its own. -/
def headerLine (name : Text) : Text := ['['] ++ (name ++ [']']) ++ ['\n']

/-- The path is one key of that name. -/
def IsPath (name : Text) (path : List Key) : Prop := ∃ key, path = [key] ∧ key.name = name

theorem IsBare.takes_header (h : IsBare name) :
    Takes (header ['['] [']']) (headerLine name) rest fun x => IsPath name x.1 := by
  have hkey : Takes key name ([']'] ++ (['\n'] ++ rest)) fun x => x.1 = [] ∧ x.2.name = name := by
    have hstop : Exhausts isBlank [] ([']'] ++ (['\n'] ++ rest)) :=
      exhausts_cons (List.forall_mem_nil _) rfl
    have hread := h.takes_key hstop (by rintro _ ⟨⟩; rfl) (by nofun)
    rwa [List.append_nil] at hread
  refine Takes.bind (Takes.spanned (P := IsPath name) ?_) ?_
  · apply takes_word.bind_eq
    apply hkey.commit.bind
    rintro ⟨path, last⟩ ⟨rfl, hname⟩
    exact takes_word.expecting.commit.bind_pure_eq ⟨last, rfl, hname⟩
  · rintro ⟨path, span⟩ h
    exact takes_restOfLine.commit.bind_pure_eq h

/-- A header completes the table above it and starts one of a new name. -/
theorem Assembly.openTable_eq {es : Entries} {span : Span} (h : a.close = .ok (es, span))
    {key : Key} (fresh : Entries.get? es key.name = none) (s : Span) :
    a.openTable [key] s = .ok ⟨es, span, [key], false, s, []⟩ := by
  unfold openTable
  rw [h]
  show (changeAt .header _ [] [] .header es >>= _) = _
  simp only [changeAt, List.getLast_singleton, fresh]
  rfl

/-- The last table is completed where the document ends. -/
theorem Assembly.close_eq {key : Key} (hpath : a.path = [key]) (hrepeated : a.repeated = false)
    (fresh : Entries.get? a.root key.name = none) :
    a.close = .ok (a.root ++ [(key, ⟨.table .header a.entries, some a.span⟩)], a.rootSpan) := by
  unfold close
  rw [hpath, hrepeated]
  show (do return ((← changeAt .header _ [] [] .header a.root).2, a.rootSpan)) = _
  simp only [changeAt, List.getLast_singleton, fresh]
  rfl

/-- The table of that name has started behind the given entries of the document. -/
structure Starts (name : Text) (es : Entries) (a : Assembly) : Prop where
  root : a.root = es
  path : IsPath name a.path
  repeated : a.repeated = false
  entries : a.entries = []

theorem IsBare.takes_tableHeader (h : IsBare name) {es : Entries} {span : Span}
    (closes : a.close = .ok (es, span)) (fresh : Entries.get? es name = none) :
    Takes (tableHeader a) (headerLine name) rest (Starts name es) := by
  have hopen : Takes (convert (fun x => a.openTable x.1 x.2) (header ['['] [']']))
      (headerLine name) rest (Starts name es) := by
    apply h.takes_header.convert
    rintro ⟨_, s⟩ ⟨key, rfl, rfl⟩
    exact ⟨_, Assembly.openTable_eq closes fresh s, rfl, ⟨key, rfl, rfl⟩, rfl, rfl⟩
  obtain ⟨c, r, rfl, hc⟩ := h.exists_eq_cons
  apply Takes.inside
  apply takes_remaining.look
  -- One bracket is followed by the name, two would start an array of tables.
  split
  case h_1 he =>
    cases he
    cases hc
  case h_2 => exact hopen
  case h_3 he => exact absurd rfl (he _ _)

end Headers

/-- A table whose name needs no quotes, with empty lines in front of it. -/
structure WrittenTable where
  gap : Nat
  name : Text
  entries : List WrittenEntry
  bare : IsBare name
  distinct : (entries.map WrittenEntry.key).Nodup

namespace WrittenTable

variable {t : WrittenTable} {ts ts' : List WrittenTable}

def text (t : WrittenTable) : Text :=
  emptyLines t.gap ++ (headerLine t.name ++ WrittenEntry.lines t.entries)

def document (ts : List WrittenTable) : Text := ts.flatMap text

theorem document_cons (t : WrittenTable) (ts : List WrittenTable) :
    document (t :: ts) = t.text ++ document ts := rfl

theorem head?_document {c : Char} (hc : c ∈ (document ts).head?) : c = '\n' ∨ c = '[' := by
  cases ts with
  | nil => cases hc
  | cons t ts =>
    rw [document_cons, text] at hc
    cases h : t.gap with
    | zero =>
      rw [h] at hc
      cases hc
      exact .inr rfl
    | succ gap =>
      rw [h] at hc
      cases hc
      exact .inl rfl

def lineCount (t : WrittenTable) : Nat := t.entries.length + 1 + t.gap

theorem lineCount_le_length (t : WrittenTable) : t.lineCount ≤ t.text.length := by
  have hlines := WrittenEntry.length_le_length_lines t.entries
  simp only [lineCount, text, emptyLines, headerLine, List.length_append, List.length_replicate,
    List.length_cons]
  omega

def lineCounts (ts : List WrittenTable) : Nat := ts.foldr (fun t n => t.lineCount + n) 0

theorem lineCounts_cons (t : WrittenTable) (ts : List WrittenTable) :
    lineCounts (t :: ts) = t.lineCount + lineCounts ts := rfl

theorem lineCounts_le_length (ts : List WrittenTable) : lineCounts ts ≤ (document ts).length := by
  induction ts with
  | nil => exact Nat.le_refl 0
  | cons t ts ih =>
    rw [lineCounts_cons, document_cons, List.length_append]
    exact Nat.add_le_add t.lineCount_le_length ih

/-- What the table is in a document. -/
def Is (t : WrittenTable) (x : Key × Node) : Prop :=
  x.1.name = t.name ∧
    ∃ es, x.2.value = .table .header es ∧ List.Forall₂ WrittenEntry.Is t.entries es

/-- If the document ended here, it would have just these tables. -/
def Closes (ts : List WrittenTable) (a : Assembly) : Prop :=
  ∃ es span, a.close = .ok (es, span) ∧ List.Forall₂ Is ts es

theorem closes_empty : Closes [] .empty := ⟨[], ⟨0, 0⟩, rfl, .nil⟩

/-- The entries behind a header make the table of its name. -/
theorem closes_of_added {es : Entries} {a' : Assembly} (hstarts : Starts t.name es a)
    (hadded : WrittenEntry.Added t.entries a a') (hes : List.Forall₂ Is ts es)
    (fresh : Entries.get? es t.name = none) : Closes (ts ++ [t]) a' := by
  obtain ⟨key, hpath, hname⟩ := hstarts.path
  obtain ⟨added, hentries, hadds⟩ := hadded.entries
  rw [hstarts.entries, List.nil_append] at hentries
  rw [← hname, ← hstarts.root, ← hadded.root] at fresh
  refine ⟨_, _, Assembly.close_eq (hadded.path.trans hpath)
    (hadded.repeated.trans hstarts.repeated) fresh, ?_⟩
  rw [hadded.root, hstarts.root, hentries]
  exact List.rel_append hes (.cons ⟨hname, added, rfl, hadds⟩ .nil)

theorem takes_text (t : WrittenTable) (h : Closes ts a) (fresh : t.name ∉ ts.map WrittenTable.name)
    (starts : ∀ c ∈ (w ++ rest).head?, isBlank c = false)
    (next : ∀ a', Closes (ts ++ [t]) a' → Takes (lines n a') w rest Q) :
    Takes (lines (n + t.lineCount) a) (t.text ++ w) rest Q := by
  obtain ⟨es, span, hclose, hes⟩ := h
  have hnone : Entries.get? es t.name = none :=
    Entries.get?_eq_none_of_names (hes.imp fun _ _ hx => hx.1) fresh
  have hblank : Exhausts isBlank [] (WrittenEntry.lines t.entries ++ w ++ rest) := by
    apply exhausts_nil
    intro c hc
    rw [List.append_assoc] at hc
    rcases WrittenEntry.head?_lines hc with hbare | hc
    · exact isBlank_of_isBareKeyChar hbare
    · exact starts c hc
  rw [text, List.append_assoc, List.append_assoc, lineCount, ← Nat.add_assoc]
  apply takes_lines_emptyLines
  · rintro _ ⟨⟩
    rfl
  · apply takes_peek?.look
    apply (t.bare.takes_tableHeader hclose hnone).commit.bind
    intro a₁ hstarts
    apply (takes_blanks hblank).look
    apply WrittenEntry.takes_lines t.entries _ t.distinct starts
    · intro a₂ hadded
      exact next a₂ (closes_of_added hstarts hadded hes hnone)
    · intro e _
      rw [hstarts.entries]
      rfl

/-- Tables of different names are read one after another, each behind those that would close by
then. -/
theorem takes_document (h : Closes ts a) (distinct : ((ts ++ ts').map WrittenTable.name).Nodup) :
    Takes (lines (n + lineCounts ts') a) (document ts') [] (Closes (ts ++ ts')) := by
  induction ts' generalizing ts a with
  | nil =>
    rw [List.append_nil]
    exact takes_lines_nil _ h
  | cons t ts' ih =>
    have hfresh : t.name ∉ ts.map WrittenTable.name := by
      rw [List.map_append, List.map_cons] at distinct
      exact fun hmem => (List.nodup_append.mp distinct).2.2 _ hmem _ List.mem_cons_self rfl
    rw [lineCounts_cons, Nat.add_comm t.lineCount, ← Nat.add_assoc, document_cons]
    apply t.takes_text h hfresh
    · intro c hc
      rw [List.append_nil] at hc
      rcases head?_document hc with rfl | rfl <;> rfl
    · intro a' ha'
      rw [List.append_cons] at distinct ⊢
      exact ih ha' distinct

/-- Tables of different names read as a document of just these tables. -/
theorem read_document (ts : List WrittenTable) (distinct : (ts.map WrittenTable.name).Nodup) :
    ∃ es span, read (document ts) = .ok ⟨.table .header es, some span⟩ ∧ List.Forall₂ Is ts es := by
  have hlines : Takes (lines (document ts).length .empty) (document ts) [] (Closes ts) := by
    have hread := takes_document (n := (document ts).length - lineCounts ts) closes_empty distinct
    rwa [Nat.sub_add_cancel (lineCounts_le_length ts)] at hread
  refine hlines.read_eq_ok ?_ fun _ h => h
  intro c hc
  rcases head?_document hc with rfl | rfl <;> decide

end WrittenTable
end SqlTemplate.Toml
