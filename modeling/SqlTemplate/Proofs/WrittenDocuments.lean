import Mathlib.Data.List.Forall2
import SqlTemplate.Listing
import SqlTemplate.Proofs.WrittenStrings
import SqlTemplate.Toml.Complaint

/-! # A document reads as the entries that were written

Entries of bare keys, one on each line, read as a table of just these entries. With strings and
lists of strings for values, a written statement is read back whatever its characters are.
-/
namespace SqlTemplate

namespace Toml

open Reader

variable {k t w rest : Text}

section Keys

/-- The key needs no quotes. -/
structure IsBare (k : Text) : Prop where
  ne_nil : k ≠ []
  all : k.all isBareKeyChar = true

theorem isBlank_of_isBareKeyChar {c : Char} (h : isBareKeyChar c = true) : isBlank c = false := by
  simp only [isBlank, Bool.or_eq_false_iff, beq_eq_false_iff_ne]
  constructor <;> (rintro rfl; cases h)

theorem IsBare.exists_eq_cons (h : IsBare k) : ∃ c r, k = c :: r ∧ isBareKeyChar c = true := by
  obtain ⟨c, r, rfl⟩ := List.exists_cons_of_ne_nil h.ne_nil
  exact ⟨c, r, rfl, List.all_eq_true.mp h.all c List.mem_cons_self⟩

theorem IsBare.takes_simpleKey (h : IsBare k) (stops : ∀ c ∈ rest.head?, isBareKeyChar c = false) :
    Takes simpleKey k rest (· = k) := by
  have hbare : Takes (takeWhile1 isBareKeyChar) k rest (· = k) :=
    Exhausts.takes1 ⟨List.all_eq_true.mp h.all, stops⟩ h.ne_nil
  obtain ⟨c, r, rfl, hc⟩ := h.exists_eq_cons
  apply takes_peek?.look
  split
  case h_1 he =>
    cases he
    cases hc
  case h_2 he =>
    cases he
    cases hc
  case h_3 => exact hbare

/-- A bare key with blanks behind it. -/
theorem IsBare.takes_keyPart (h : IsBare k) (hw : Exhausts isBlank w rest)
    (stops : ∀ c ∈ (w ++ rest).head?, isBareKeyChar c = false) :
    Takes keyPart (k ++ w) rest (·.name = k) := by
  have hstart : Exhausts isBlank [] (k ++ w ++ rest) := by
    obtain ⟨c, r, rfl, hc⟩ := h.exists_eq_cons
    exact exhausts_cons (List.forall_mem_nil _) (isBlank_of_isBareKeyChar hc)
  apply (takes_blanks hstart).look
  apply (h.takes_simpleKey stops).spanned.bind
  intro x hx
  exact (takes_blanks hw).bind_pure_eq hx

/-- A bare key up to what follows it and cannot go on with the key. -/
theorem IsBare.takes_key (h : IsBare k) (hw : Exhausts isBlank w rest)
    (stops : ∀ c ∈ (w ++ rest).head?, isBareKeyChar c = false) (hdot : rest.head? ≠ some '.') :
    Takes key (k ++ w) rest fun x => x.1 = [] ∧ x.2.name = k := by
  have hmore : Declines (do let _ ← char '.'; keyPart) rest := (declines_char hdot).bind
  have hparts : Takes (sepBy1 (char '.') keyPart) (k ++ w) rest
      fun parts => ∃ part, parts = [part] ∧ part.name = k := by
    apply (h.takes_keyPart hw stops).bind_done
    intro part hname
    exact hmore.many.bind_pure_eq ⟨part, rfl, hname⟩
  apply hparts.inside.convert
  rintro _ ⟨part, rfl, hname⟩
  exact ⟨([], part), rfl, rfl, hname⟩

end Keys

section Strings

theorem writeString_eq_cons (t : Text) : ∃ c r, writeString t = c :: r ∧ (c = '"' ∨ c = '\'') := by
  rw [writeString]
  cases StringForm.choose t with
  | basic | multilineBasic => exact ⟨'"', _, rfl, .inl rfl⟩
  | literal | multilineLiteral => exact ⟨'\'', _, rfl, .inr rfl⟩

theorem takes_valueWith_string (nested : Reader Value) (t : Text) (hrest : Clear rest) :
    Takes (valueWith nested) (writeString t) rest (·.value = .string t) := by
  have hstring : Takes (do return Value.string (← string)) (writeString t) rest (· = .string t) :=
    (takes_writeString t hrest).bind_pure_eq rfl
  unfold valueWith
  refine Takes.bind_pure (Takes.spanned (P := (· = .string t)) ?_) fun _ hx => hx
  apply takes_peek?.look
  obtain ⟨c, r, hcr, hc⟩ := writeString_eq_cons t
  rw [hcr] at hstring ⊢
  rcases hc with rfl | rfl
  · exact hstring
  · exact hstring

/-- The reader reads written strings. -/
def ReadsStrings (value : Reader Node) : Prop :=
  ∀ t rest, Clear rest → Takes value (writeString t) rest (·.value = .string t)

theorem readsStrings_valueWithin (depth : Nat) : ReadsStrings (valueWithin depth) := by
  intro t rest hrest
  cases depth with
  | zero => exact takes_valueWith_string _ t hrest
  | succ depth => exact takes_valueWith_string _ t hrest

end Strings

section Lists

variable {value : Reader Node}

theorem takes_padding (hw : Exhausts isBlank w rest)
    (hrest : ∀ c ∈ rest.head?, c ≠ '#' ∧ c ≠ '\n' ∧ c ≠ '\r') :
    Takes padding w rest (· = ()) := by
  apply takes_remaining.look
  cases (w ++ rest).length with
  | zero => exact takes_blanks hw
  | succ n =>
    apply (takes_blanks hw).bind_done
    rintro _ -
    apply takes_peek?.look
    rw [List.nil_append]
    split
    case h_1 he => exact absurd rfl (hrest _ he).1
    case h_2 he => exact absurd rfl (hrest _ he).2.1
    case h_3 he => exact absurd rfl (hrest _ he).2.2
    case h_4 => exact takes_pure rfl

/-- A list goes on, or ends, right here. -/
inductive GoesOn : Text → Prop where
  | comma (r : Text) : GoesOn (',' :: r)
  | closing (r : Text) : GoesOn (']' :: r)

theorem GoesOn.clear (h : GoesOn rest) : Clear rest := by
  cases h with
  | comma r => exact ⟨nofun, nofun⟩
  | closing r => exact ⟨nofun, nofun⟩

theorem GoesOn.takes_padding (h : GoesOn rest) : Takes padding [] rest (· = ()) := by
  cases h with
  | comma r =>
    apply Toml.takes_padding (exhausts_cons (List.forall_mem_nil _) rfl)
    rintro _ ⟨⟩
    decide
  | closing r =>
    apply Toml.takes_padding (exhausts_cons (List.forall_mem_nil _) rfl)
    rintro _ ⟨⟩
    decide

theorem ReadsStrings.takes_arrayItem (hv : ReadsStrings value) (hw : ∀ c ∈ w, isBlank c = true)
    (t : Text) (hrest : GoesOn rest) :
    Takes (arrayItem value) (w ++ writeString t) rest (·.value = .string t) := by
  have hpadding : Takes padding w (writeString t ++ rest) (· = ()) := by
    obtain ⟨c, r, hcr, hc⟩ := writeString_eq_cons t
    rw [hcr]
    rcases hc with rfl | rfl
    · apply takes_padding (exhausts_cons hw rfl)
      rintro _ ⟨⟩
      decide
    · apply takes_padding (exhausts_cons hw rfl)
      rintro _ ⟨⟩
      decide
  apply hpadding.bind_eq
  apply (hv t rest hrest.clear).bind_done
  intro node hnode
  exact hrest.takes_padding.bind_pure_eq hnode

/-- The nodes are strings, as given. -/
def AreStrings (ts : List Text) (nodes : List Node) : Prop :=
  nodes.map Located.value = ts.map Value.string

theorem AreStrings.cons {ts : List Text} {node : Node} {nodes : List Node}
    (h : node.value = .string t) (hs : AreStrings ts nodes) :
    AreStrings (t :: ts) (node :: nodes) := by
  rw [AreStrings, List.map_cons, List.map_cons, h, hs]

/-- The items of a list behind its first one, as written. -/
def moreItems (ts : List Text) : Text := ts.flatMap fun t => [','] ++ ([' '] ++ writeString t)

theorem intercalate_writeString_cons (t : Text) (ts : List Text) :
    [',', ' '].intercalate ((t :: ts).map writeString) = writeString t ++ moreItems ts := by
  induction ts generalizing t with
  | nil => simp [moreItems]
  | cons u ts ih =>
    rw [List.map_cons, List.map_cons, List.intercalate_cons_cons, ← List.map_cons, ih u]
    simp [moreItems]

theorem goesOn_moreItems (ts : List Text) : GoesOn (moreItems ts ++ ']' :: rest) := by
  cases ts with
  | nil => exact .closing rest
  | cons t ts => exact .comma _

theorem ReadsStrings.repeats_moreItems (hv : ReadsStrings value) (ts : List Text) :
    Repeats (do let _ ← char ','; arrayItem value) (moreItems ts) (']' :: rest)
      (AreStrings ts) := by
  induction ts with
  | nil =>
    have hend : Declines (do let _ ← char ','; arrayItem value) (']' :: rest) :=
      (declines_char_cons (by decide)).bind
    exact hend.repeats rfl
  | cons t ts ih =>
    have hitem : Takes (do let _ ← char ','; arrayItem value) ([','] ++ ([' '] ++ writeString t))
        (moreItems ts ++ ']' :: rest) (·.value = .string t) := by
      apply takes_char.bind_eq
      exact hv.takes_arrayItem (List.forall_mem_singleton.mpr rfl) t (goesOn_moreItems ts)
    exact hitem.repeats (List.cons_ne_nil _ _) ih fun _ _ hnode hnodes => hnodes.cons hnode

theorem ReadsStrings.takes_items (hv : ReadsStrings value) (t : Text) (ts : List Text) :
    Takes (sepBy (char ',') (arrayItem value)) (writeString t ++ moreItems ts) (']' :: rest)
      fun nodes => AreStrings (t :: ts) nodes ∧ nodes ≠ [] := by
  have hfirst : Takes (arrayItem value) (writeString t) (moreItems ts ++ ']' :: rest)
      (·.value = .string t) :=
    hv.takes_arrayItem (w := []) (List.forall_mem_nil _) t (goesOn_moreItems ts)
  have hlist : Takes (sepBy1 (char ',') (arrayItem value)) (writeString t ++ moreItems ts)
      (']' :: rest) fun nodes => AreStrings (t :: ts) nodes ∧ nodes ≠ [] := by
    apply hfirst.bind
    intro node hnode
    apply (hv.repeats_moreItems ts).many.bind_pure
    intro nodes hnodes
    exact ⟨hnodes.cons hnode, List.cons_ne_nil _ _⟩
  apply hlist.optional.bind_pure
  rintro _ ⟨nodes, rfl, h⟩
  exact h

theorem ReadsStrings.takes_arrayItems (hv : ReadsStrings value) (ts : List Text) :
    Takes (arrayItems value) ([',', ' '].intercalate (ts.map writeString)) (']' :: rest)
      (AreStrings ts) := by
  apply takes_peek?.look
  cases ts with
  | nil => exact takes_pure rfl
  | cons t ts =>
    rw [intercalate_writeString_cons]
    split
    case h_1 he =>
      obtain ⟨c, r, hcr, hc⟩ := writeString_eq_cons t
      rw [hcr] at he
      rcases hc with rfl | rfl <;> cases he
    case h_2 =>
      apply (hv.takes_items t ts).bind_done
      rintro nodes ⟨hnodes, hne⟩
      rw [if_neg (by simpa using hne)]
      have hcomma : Declines (char ',') (']' :: rest) := declines_char_cons (by decide)
      apply hcomma.optional.look
      exact (GoesOn.closing rest).takes_padding.bind_pure_eq hnodes

/-- A list of strings, as written. -/
def writeStrings (ts : List Text) : Text :=
  ['['] ++ ([',', ' '].intercalate (ts.map writeString) ++ [']'])

theorem takes_valueWithin_strings (depth : Nat) (ts : List Text) :
    Takes (valueWithin (depth + 1)) (writeStrings ts) rest
      fun node => ∃ nodes, node.value = .array nodes ∧ AreStrings ts nodes := by
  have hitems : Takes (arrayItems (valueWithin depth)) ([',', ' '].intercalate (ts.map writeString))
      (']' :: rest) (AreStrings ts) :=
    (readsStrings_valueWithin depth).takes_arrayItems ts
  have harray : Takes (array (valueWithin depth)) (writeStrings ts) rest
      fun v => ∃ nodes, v = .array nodes ∧ AreStrings ts nodes := by
    apply takes_char.bind_eq
    apply hitems.commit.bind
    intro nodes hnodes
    exact takes_char.expecting.inside.commit.bind_pure_eq ⟨nodes, rfl, hnodes⟩
  have hnested : Takes (nestedValue (valueWithin depth)) (writeStrings ts) rest
      fun v => ∃ nodes, v = .array nodes ∧ AreStrings ts nodes :=
    takes_peek?.look harray
  unfold valueWithin valueWith
  refine Takes.bind_pure (Takes.spanned
    (P := fun v => ∃ nodes, v = .array nodes ∧ AreStrings ts nodes) ?_) fun _ hx => hx
  exact takes_peek?.look hnested

end Lists

section Lines

theorem takes_equalsSign : Takes equalsSign ['='] rest (· = ()) :=
  (takes_char.bind_pure_eq rfl).expecting

theorem takes_restOfLine : Takes restOfLine ['\n'] rest (· = ()) := by
  have hblank : Exhausts isBlank [] ('\n' :: rest) := exhausts_cons (List.forall_mem_nil _) rfl
  have hcomment : Declines comment ('\n' :: rest) := (declines_char_cons (by decide)).bind
  apply Takes.expecting
  apply (takes_blanks hblank).look
  apply hcomment.optional.look
  exact takes_newline.either_left

theorem Entries.get?_eq_none_of_names {α : Type} {name : α → Text} {xs : List α} {es : Entries}
    (h : List.Forall₂ (fun x e => e.1.name = name x) xs es) (hk : k ∉ xs.map name) :
    Entries.get? es k = none := by
  induction h with
  | nil => rfl
  | cons hx _ ih =>
    rw [List.map_cons, List.mem_cons, not_or] at hk
    rw [Entries.get?, List.find?_cons_of_neg (by simpa [hx] using Ne.symm hk.1)]
    exact ih hk.2

theorem Assembly.exists_add (a : Assembly) {key : Key} (node : Node)
    (fresh : Entries.get? a.entries key.name = none) :
    ∃ span, a.add [] key node = .ok { a with entries := a.entries ++ [(key, node)], span } := by
  have hadd : addEntry .dotted (some (names a.path)) [] key node .header a.entries =
      .ok (a.entries ++ [(key, node)]) := by
    simp only [addEntry, changeAt, fresh]
    rfl
  refine ⟨⟨a.span.start, (node.span.map Span.stop).getD a.span.stop⟩, ?_⟩
  rw [Assembly.add, hadd]
  rfl

theorem takes_lines_nil {P : Assembly → Prop} (n : Nat) {a : Assembly} (h : P a) :
    Takes (lines n a) [] [] P := by
  cases n with
  | zero => exact takes_pure h
  | succ n => exact takes_peek?.look (takes_pure h)

/-- A text of lines is a document if it starts with neither blanks nor a byte order mark. -/
theorem Reader.Takes.read_eq_ok {P : Assembly → Prop} {Q : Entries → Prop}
    (h : Takes (lines t.length .empty) t [] P)
    (starts : ∀ c ∈ t.head?, isBlank c = false ∧ c ≠ '\ufeff')
    (closes : ∀ a, P a → ∃ es span, a.close = .ok (es, span) ∧ Q es) :
    ∃ es span, read t = .ok ⟨.table .header es, some span⟩ ∧ Q es := by
  have hmark : Declines (char '\ufeff') (t ++ []) := by
    apply declines_char
    rw [List.append_nil]
    intro he
    exact (starts _ he).2 rfl
  have hblank : Exhausts isBlank [] (t ++ []) := by
    apply exhausts_nil
    rw [List.append_nil]
    intro c hc
    exact (starts c hc).1
  have htext : Takes documentText t [] P := by
    apply hmark.optional.look
    apply (takes_blanks hblank).look
    apply takes_remaining.look
    rw [List.append_nil]
    apply h.bind_done
    intro a ha
    exact takes_endOfText.bind_pure_eq ha
  have hdocument : Takes document t [] fun node =>
      ∃ es span, node = ⟨.table .header es, some span⟩ ∧ Q es := by
    apply htext.convert
    intro a ha
    obtain ⟨es, span, hes, hQ⟩ := closes a ha
    exact ⟨_, by rw [hes]; rfl, es, span, rfl, hQ⟩
  obtain ⟨_, hread, es, span, rfl, hQ⟩ := hdocument 0
  rw [List.append_nil] at hread
  exact ⟨es, span, by rw [read, hread], hQ⟩

end Lines

/-- An entry of a bare key, with what the text of its value reads as. -/
structure WrittenEntry where
  key : Text
  text : Text
  Means : Value → Prop
  bare : IsBare key
  starts : ∀ c ∈ text.head?, isBlank c = false
  reads : ∀ rest, Takes value text ('\n' :: rest) fun node => Means node.value

namespace WrittenEntry

/-- On a line of its own. -/
def line (e : WrittenEntry) : Text :=
  e.key ++ [' '] ++ (['='] ++ ([' '] ++ (e.text ++ ['\n'])))

def lines (es : List WrittenEntry) : Text := es.flatMap line

theorem lines_cons (e : WrittenEntry) (es : List WrittenEntry) :
    lines (e :: es) = e.line ++ lines es := rfl

theorem exists_eq_cons (e : WrittenEntry) (t : Text) :
    ∃ c r, e.line ++ t = c :: r ∧ isBareKeyChar c = true := by
  obtain ⟨c, r, hcr, hc⟩ := e.bare.exists_eq_cons
  exact ⟨c, _, by rw [line, hcr]; rfl, hc⟩

theorem head?_lines {es : List WrittenEntry} {c : Char} (hc : c ∈ (lines es ++ t).head?) :
    isBareKeyChar c = true ∨ c ∈ t.head? := by
  cases es with
  | nil => exact .inr hc
  | cons e es =>
    obtain ⟨d, r, hdr, hd⟩ := e.exists_eq_cons (lines es ++ t)
    rw [lines_cons, List.append_assoc, hdr] at hc
    cases hc
    exact .inl hd

theorem length_le_length_lines (es : List WrittenEntry) : es.length ≤ (lines es).length := by
  induction es with
  | nil => exact Nat.le_refl 0
  | cons e es ih =>
    have hline : 0 < e.line.length := by
      simp only [line, List.length_append, List.length_cons]
      omega
    rw [lines_cons, List.length_append, List.length_cons]
    omega

/-- What the entry is in a table. -/
def Is (e : WrittenEntry) (x : Key × Node) : Prop := x.1.name = e.key ∧ e.Means x.2.value

/-- The second document has the entries as well, in the table under its last header. -/
structure Added (es : List WrittenEntry) (a a' : Assembly) : Prop where
  root : a'.root = a.root
  path : a'.path = a.path
  repeated : a'.repeated = a.repeated
  entries : ∃ added, a'.entries = a.entries ++ added ∧ List.Forall₂ Is es added

theorem added_nil (a : Assembly) : Added [] a a := ⟨rfl, rfl, rfl, [], by simp, .nil⟩

theorem Added.cons {e : WrittenEntry} {es : List WrittenEntry} {a a' a'' : Assembly}
    (h : Added [e] a a') (h' : Added es a' a'') : Added (e :: es) a a'' := by
  obtain ⟨added, hadded, hes⟩ := h.entries
  obtain ⟨added', hadded', hes'⟩ := h'.entries
  refine ⟨h'.root.trans h.root, h'.path.trans h.path, h'.repeated.trans h.repeated,
    added ++ added', ?_, ?_⟩
  · rw [hadded', hadded, List.append_assoc]
  · exact List.rel_append hes hes'

/-- A key that is neither in the table nor that of the added entry is not in the table then. -/
theorem Added.get?_eq_none {e : WrittenEntry} {a a' : Assembly} (h : Added [e] a a')
    (hk : Entries.get? a.entries k = none) (hne : e.key ≠ k) :
    Entries.get? a'.entries k = none := by
  obtain ⟨added, hadded, hes⟩ := h.entries
  have hnone : Entries.get? added k = none :=
    Entries.get?_eq_none_of_names (hes.imp fun _ _ hx => hx.1) (by simpa using hne.symm)
  rw [Entries.get?] at hk hnone
  rw [hadded, Entries.get?, List.find?_append, hk, hnone]
  rfl

theorem takes_entry (e : WrittenEntry) (a : Assembly)
    (fresh : Entries.get? a.entries e.key = none) :
    Takes (entry a) e.line rest (Added [e] a) := by
  have hblank : Exhausts isBlank [' '] (e.text ++ ['\n'] ++ rest) := by
    refine ⟨List.forall_mem_singleton.mpr rfl, ?_⟩
    have hstarts := e.starts
    cases h : e.text with
    | nil =>
      rintro _ ⟨⟩
      rfl
    | cons c r =>
      rw [h] at hstarts
      exact hstarts
  have hkey : Takes Toml.key (e.key ++ [' ']) (['='] ++ ([' '] ++ (e.text ++ ['\n'])) ++ rest)
      fun x => x.1 = [] ∧ x.2.name = e.key := by
    apply e.bare.takes_key (exhausts_cons (List.forall_mem_singleton.mpr rfl) rfl)
    · rintro _ ⟨⟩
      rfl
    · nofun
  refine Takes.convert (P := fun x => (x.1.1 = [] ∧ x.1.2.name = e.key) ∧ e.Means x.2.value) ?_ ?_
  · apply hkey.bind
    intro x hx
    apply Takes.commit
    apply takes_equalsSign.bind_eq
    apply (takes_blanks hblank).bind_eq
    apply (e.reads rest).bind
    intro node hnode
    exact takes_restOfLine.bind_pure_eq ⟨hx, hnode⟩
  · rintro ⟨⟨path, key⟩, node⟩ ⟨⟨rfl, hname⟩, hnode⟩
    rw [← hname] at fresh
    obtain ⟨span, hadd⟩ := a.exists_add node fresh
    exact ⟨_, hadd, rfl, rfl, rfl, [(key, node)], rfl, .cons ⟨hname, hnode⟩ .nil⟩

theorem takes_lines_entry (e : WrittenEntry) {n : Nat} {a : Assembly} {Q : Assembly → Prop}
    (fresh : Entries.get? a.entries e.key = none)
    (starts : ∀ c ∈ (w ++ rest).head?, isBlank c = false)
    (next : ∀ a', Added [e] a a' → Takes (Toml.lines n a') w rest Q) :
    Takes (Toml.lines (n + 1) a) (e.line ++ w) rest Q := by
  have hentry : Takes (do let a ← commit (entry a); blanks; Toml.lines n a) (e.line ++ w) rest
      Q := by
    apply (e.takes_entry a fresh).commit.bind
    intro a' ha'
    exact (takes_blanks (exhausts_nil starts)).look (next a' ha')
  apply takes_peek?.look
  obtain ⟨c, r, hcr, hc⟩ := e.exists_eq_cons (w ++ rest)
  rw [List.append_assoc, hcr, List.head?_cons]
  -- A line that starts with the character of a bare key is an entry.
  split
  case h_1 he => cases he
  case h_2 he => cases he; cases hc
  case h_3 he => cases he; cases hc
  case h_4 he => cases he; cases hc
  case h_5 he => cases he; cases hc
  case h_6 => exact hentry

/-- Entries of different keys are read one after another, before what the next lines are. -/
theorem takes_lines (es : List WrittenEntry) {n : Nat} {a : Assembly} {Q : Assembly → Prop}
    (fresh : ∀ e ∈ es, Entries.get? a.entries e.key = none) (distinct : (es.map key).Nodup)
    (starts : ∀ c ∈ (w ++ rest).head?, isBlank c = false)
    (next : ∀ a', Added es a a' → Takes (Toml.lines n a') w rest Q) :
    Takes (Toml.lines (n + es.length) a) (lines es ++ w) rest Q := by
  induction es generalizing a with
  | nil => exact next a (added_nil a)
  | cons e es ih =>
    obtain ⟨hfresh, hrest⟩ := List.forall_mem_cons.mp fresh
    rw [List.map_cons, List.nodup_cons] at distinct
    rw [lines_cons, List.append_assoc]
    apply e.takes_lines_entry hfresh
    · intro c hc
      rw [List.append_assoc] at hc
      rcases head?_lines hc with hbare | hc
      · exact isBlank_of_isBareKeyChar hbare
      · exact starts c hc
    · intro a' ha'
      apply ih
      · intro e' he'
        apply ha'.get?_eq_none (hrest e' he')
        intro heq
        exact distinct.1 (List.mem_map.mpr ⟨e', he', heq.symm⟩)
      · exact distinct.2
      · intro a'' ha''
        exact next a'' (ha'.cons ha'')

/-- Entries of different keys read as the table of just these entries. -/
theorem read_lines (es : List WrittenEntry) (distinct : (es.map key).Nodup) :
    ∃ added span, read (lines es) = .ok ⟨.table .header added, some span⟩ ∧
      List.Forall₂ Is es added := by
  have hlines : Takes (Toml.lines (lines es).length .empty) (lines es) [] (Added es .empty) := by
    have hread (n : Nat) : Takes (Toml.lines (n + es.length) .empty) (lines es ++ []) []
        (Added es .empty) :=
      takes_lines es (fun _ _ => rfl) distinct (fun _ hc => nomatch hc)
        fun _ h => takes_lines_nil n h
    have := hread ((lines es).length - es.length)
    rwa [Nat.sub_add_cancel (length_le_length_lines es), List.append_nil] at this
  have hstarts : ∀ c ∈ (lines es).head?, isBlank c = false ∧ c ≠ '\ufeff' := by
    intro c hc
    rw [← List.append_nil (lines es)] at hc
    rcases head?_lines hc with hbare | hnil
    · refine ⟨isBlank_of_isBareKeyChar hbare, ?_⟩
      rintro rfl
      cases hbare
    · cases hnil
  have hcloses (a : Assembly) (h : Added es .empty a) : ∃ added span,
      a.close = .ok (added, span) ∧ List.Forall₂ Is es added := by
    obtain ⟨added, hadded, hes⟩ := h.entries
    refine ⟨added, a.span, ?_, hes⟩
    rw [Assembly.close, h.path, hadded]
    rfl
  exact hlines.read_eq_ok hstarts hcloses

/-- An entry of a string. -/
def ofString (k t : Text) (bare : IsBare k) : WrittenEntry where
  key := k
  text := writeString t
  Means v := v = .string t
  bare := bare
  starts := by
    obtain ⟨c, r, hcr, hc⟩ := writeString_eq_cons t
    rw [hcr]
    rintro _ ⟨⟩
    rcases hc with rfl | rfl <;> rfl
  reads rest := readsStrings_valueWithin _ t ('\n' :: rest) ⟨nofun, nofun⟩

/-- An entry of a list of strings. -/
def ofStrings (k : Text) (ts : List Text) (bare : IsBare k) : WrittenEntry where
  key := k
  text := writeStrings ts
  Means v := ∃ nodes, v = .array nodes ∧ AreStrings ts nodes
  bare := bare
  starts := by
    rintro _ ⟨⟩
    rfl
  reads rest := takes_valueWithin_strings _ ts

end WrittenEntry

end Toml

namespace Statement

open Toml

/-- The entries of a statement that is written out. -/
def entries (s : Statement) : List WrittenEntry :=
  [.ofString "parameterized_sql".toList s.sql ⟨by decide, by decide⟩,
    .ofStrings "patterns".toList s.patterns ⟨by decide, by decide⟩]

theorem toToml_eq_lines (s : Statement) : s.toToml = WrittenEntry.lines s.entries := by
  unfold toToml WrittenEntry.lines entries WrittenEntry.line WrittenEntry.ofString
    WrittenEntry.ofStrings writeStrings
  simp

/-- A statement written as a document is read back whatever its characters are. -/
theorem read_toToml (s : Statement) :
    ∃ sqlKey sqlNode patternsKey patternsNode items span,
      Toml.read s.toToml =
        .ok ⟨.table .header [(sqlKey, sqlNode), (patternsKey, patternsNode)], some span⟩ ∧
      sqlKey.name = "parameterized_sql".toList ∧ sqlNode.value = .string s.sql ∧
      patternsKey.name = "patterns".toList ∧ patternsNode.value = .array items ∧
      items.map Located.value = s.patterns.map Value.string := by
  have distinct : (s.entries.map WrittenEntry.key).Nodup := by
    show ["parameterized_sql".toList, "patterns".toList].Nodup
    decide
  obtain ⟨added, span, hread, hadded⟩ := WrittenEntry.read_lines s.entries distinct
  rw [← toToml_eq_lines] at hread
  cases hadded with
  | cons hsql hrest =>
    cases hrest with
    | cons hpatterns hnil =>
      cases hnil
      obtain ⟨hname, items, hitems, hstrings⟩ := hpatterns
      exact ⟨_, _, _, _, items, span, hread, hsql.1, hsql.2, hname, hitems, hstrings⟩

end Statement

end SqlTemplate
