import Mathlib
import SqlTemplate.Proofs.DistinctKeys
import SqlTemplate.Proofs.WrittenSettings

/-! # Which spellings of the settings come to the same

A document tells its settings by two values. Nothing else in it counts: no other key, not the order
of the keys, not the kind of table or array that the two values stand in. What the settings are is
said here in terms of the two values, and the spellings are compared by it.
-/
namespace SqlTemplate

namespace Toml

/-- The node under a name. -/
def Entries.node? (es : Entries) (name : Text) : Option Node :=
  (Entries.get? es name).map fun e => e.2

def Entries.value? (es : Entries) (name : Text) : Option Value :=
  (Entries.node? es name).map Located.value

section

variable {e : Key × Node} {es : Entries} {name : Text}

theorem Entries.node?_nil (name : Text) : Entries.node? [] name = none := rfl

theorem Entries.node?_cons_of_eq (h : e.1.name = name) :
    Entries.node? (e :: es) name = some e.2 := by
  simp [Entries.node?, Entries.get?, h]

theorem Entries.node?_cons_of_ne (h : e.1.name ≠ name) :
    Entries.node? (e :: es) name = Entries.node? es name := by
  simp [Entries.node?, Entries.get?, h]

theorem Entries.Distinct.of_cons (h : Entries.Distinct (e :: es)) : es.Distinct :=
  (List.nodup_cons.mp h).2

theorem Entries.Distinct.node?_tail (h : Entries.Distinct (e :: es)) :
    Entries.node? es e.1.name = none := by
  have hnot : e.1.name ∉ es.map fun e => e.1.name := (List.nodup_cons.mp h).1
  simpa [Entries.node?, Entries.get?] using hnot

end

namespace Value

/-- The values in an array, which may be one of tables under a repeated header. -/
def items? : Value → Option (List Node)
  | .array items | .tables items => some items
  | _ => none

theorem items?_eq_some_iff {v : Value} {items : List Node} :
    v.items? = some items ↔ v = .array items ∨ v = .tables items := by
  cases v <;> simp [items?]

/-- The two are one piece of data: where they stand, what brought their tables into being and in
which order the keys come does not count. -/
inductive Same : Value → Value → Prop
  | string (t : Text) : Same (.string t) (.string t)
  | integer (n : Int) : Same (.integer n) (.integer n)
  | float (x : Binary64) : Same (.float x) (.float x)
  | boolean (b : Bool) : Same (.boolean b) (.boolean b)
  | moment : Same .moment .moment
  | array {v w : Value} {xs ys : List Node} (hv : v.items? = some xs) (hw : w.items? = some ys)
      (items : List.Forall₂ (fun x y => Same x.value y.value) xs ys) : Same v w
  | table {o o' : Origin} {es es' fs : Entries} (order : es.Perm fs)
      (names : fs.map (fun e => e.1.name) = es'.map fun e => e.1.name)
      (values : List.Forall₂ (fun e f => Same e.2.value f.2.value) fs es') :
      Same (.table o es) (.table o' es')

theorem sizeOf_item_lt {x : Node} {items : List Node} (h : x ∈ items) :
    sizeOf x.value < sizeOf items := by
  have hitem : sizeOf x < sizeOf items := List.sizeOf_lt_of_mem h
  cases x
  simp only [Located.mk.sizeOf_spec] at hitem ⊢
  omega

theorem sizeOf_entry_lt {e : Key × Node} {es : Entries} (h : e ∈ es) :
    sizeOf e.2.value < sizeOf es := by
  have hentry : sizeOf e < sizeOf es := List.sizeOf_lt_of_mem h
  obtain ⟨key, node⟩ := e
  cases node
  simp only [Prod.mk.sizeOf_spec, Located.mk.sizeOf_spec] at hentry ⊢
  omega

theorem Same.refl (v : Value) : v.Same v := by
  cases v with
  | string t => exact .string t
  | integer n => exact .integer n
  | float x => exact .float x
  | boolean b => exact .boolean b
  | moment => exact .moment
  | array items | tables items =>
    refine .array rfl rfl (List.forall₂_same.mpr ?_)
    intro x hx
    exact Same.refl x.value
  | table o es =>
    refine .table (.refl es) rfl (List.forall₂_same.mpr ?_)
    intro e he
    exact Same.refl e.2.value
termination_by sizeOf v
decreasing_by
  · have hitem := sizeOf_item_lt hx
    simp only [array.sizeOf_spec]
    omega
  · have hentry := sizeOf_entry_lt he
    simp only [table.sizeOf_spec]
    omega
  · have hitem := sizeOf_item_lt hx
    simp only [tables.sizeOf_spec]
    omega

/-- A table or an array with nothing in it. -/
inductive IsEmpty : Value → Prop
  | table (o : Origin) : IsEmpty (.table o [])
  | array {v : Value} (hv : v.items? = some []) : IsEmpty v

variable {v w : Value}

theorem Same.eq_string_iff (h : v.Same w) (t : Text) : v = .string t ↔ w = .string t := by
  cases h with
  | array hv hw =>
    constructor
    · rintro rfl
      cases hv
    · rintro rfl
      cases hw
  | table => simp
  | _ => exact Iff.rfl

theorem isEmpty_iff_of_items? {xs : List Node} (hv : v.items? = some xs) :
    v.IsEmpty ↔ xs = [] := by
  constructor
  · rintro (⟨o⟩ | ⟨hempty⟩)
    · cases hv
    · exact Option.some.inj (hv.symm.trans hempty)
  · rintro rfl
    exact .array hv

theorem isEmpty_table_iff {o : Origin} {es : Entries} : (table o es).IsEmpty ↔ es = [] := by
  constructor
  · rintro (⟨o⟩ | ⟨hempty⟩)
    · rfl
    · cases hempty
  · rintro rfl
    exact .table o

theorem Same.isEmpty_iff (h : v.Same w) : v.IsEmpty ↔ w.IsEmpty := by
  cases h with
  | array hv hw items =>
    rw [isEmpty_iff_of_items? hv, isEmpty_iff_of_items? hw, ← List.length_eq_zero_iff,
      ← List.length_eq_zero_iff, items.length_eq]
  | table order names values =>
    rw [isEmpty_table_iff, isEmpty_table_iff, ← List.length_eq_zero_iff,
      ← List.length_eq_zero_iff, order.length_eq, values.length_eq]
  | _ => exact Iff.rfl

end Value

end Toml

namespace Settings

open Toml

variable {α : Type} {node : Node} {key : Option Key} {es : Entries} {name : String} {t : Text}
  {q : Policy}

section Nodes

theorem within_eq_ok_iff {r : Decoded α} {a : α} : within key node r = .ok a ↔ r = .ok a := by
  cases r <;> simp [within]

/-- What has been told so far, after a node has been decoded if there is one. -/
inductive Entered (decode : Node → Decoded α) (old : Option α) : Option Node → Option α → Prop
  | kept : Entered decode old none old
  | decoded {x : Node} {a : α} (h : decode x = .ok a) : Entered decode old (some x) (some a)

section

variable {decode : Node → Decoded α} {old a? : Option α} {x : Node}

theorem entered_none_iff : Entered decode old none a? ↔ a? = old := by
  constructor
  · rintro ⟨⟩
    rfl
  · rintro rfl
    exact .kept

theorem entered_some_iff :
    Entered decode old (some x) a? ↔ ∃ a, decode x = .ok a ∧ a? = some a := by
  constructor
  · rintro (_ | h)
    exact ⟨_, h, rfl⟩
  · rintro ⟨a, h, rfl⟩
    exact .decoded h

theorem field_eq_ok_iff :
    field name es decode = .ok a? ↔ Entered decode none (es.node? name.toList) a? := by
  rw [field, Entries.node?]
  cases Entries.get? es name.toList with
  | none =>
    rw [Option.map_none, entered_none_iff]
    simp [eq_comm]
  | some e =>
    rw [Option.map_some, entered_some_iff]
    show (within (some e.1) e.2 (decode e.2)).map some = .ok a? ↔ _
    generalize decode e.2 = r
    cases r <;> simp [within, Except.map, eq_comm]

end

theorem decodeTemplate_eq_ok_iff : decodeTemplate node = .ok t ↔ node.value = .string t := by
  rw [decodeTemplate]
  cases node.value <;> simp [refuse]

theorem policyNamed_eq_ok_iff {place : Option Span} :
    policyNamed t place = .ok q ↔ t = q.name := by
  constructor
  · intro h
    rw [policyNamed] at h
    split at h
    case h_1 p hp =>
      cases h
      have hname := List.find?_some hp
      exact (beq_iff_eq.mp hname).symm
    case h_2 => cases h
  · rintro rfl
    exact policyNamed_name q place

theorem decodeNothing_eq_ok_iff : decodeNothing node = .ok () ↔ node.value.IsEmpty := by
  rw [decodeNothing]
  cases node.value with
  | table o es =>
    rw [Value.isEmpty_table_iff]
    cases es <;> simp [refuse]
  | array items | tables items =>
    rw [Value.isEmpty_iff_of_items? rfl]
    cases items <;> simp [refuse]
  | _ =>
    refine iff_of_false (by rintro ⟨⟩) ?_
    intro h
    cases h with
    | array hv => cases hv

/-- The policy that a value tells: by its name, or by a table in which nothing stands under the
name. -/
inductive NamesPolicy : Value → Policy → Prop
  | name (q : Policy) : NamesPolicy (.string q.name) q
  | entry {o : Origin} {key : Key} {nothing : Node} {q : Policy} (hname : key.name = q.name)
      (hempty : nothing.value.IsEmpty) : NamesPolicy (.table o [(key, nothing)]) q

theorem namesPolicy_string_iff : NamesPolicy (.string t) q ↔ t = q.name := by
  constructor
  · rintro ⟨⟩
    rfl
  · rintro rfl
    exact .name q

theorem namesPolicy_table_iff {o : Origin} :
    NamesPolicy (.table o es) q ↔ ∃ e, es = [e] ∧ e.1.name = q.name ∧ e.2.value.IsEmpty := by
  constructor
  · rintro (_ | ⟨hname, hempty⟩)
    exact ⟨_, rfl, hname, hempty⟩
  · rintro ⟨e, rfl, hname, hempty⟩
    exact .entry hname hempty

theorem decodePolicy_eq_ok_iff : decodePolicy node = .ok q ↔ NamesPolicy node.value q := by
  rw [decodePolicy]
  cases node.value with
  | string t =>
    rw [namesPolicy_string_iff]
    exact policyNamed_eq_ok_iff
  | table o es =>
    rw [namesPolicy_table_iff]
    cases es with
    | nil => exact iff_of_false (by rintro ⟨⟩) (by rintro ⟨_, ⟨⟩, _⟩)
    | cons e es =>
      cases es with
      | nil =>
        simp only [bind_eq_ok_iff, policyNamed_eq_ok_iff]
        constructor
        · rintro ⟨p, hname, ⟨⟩, hempty, ⟨⟩⟩
          exact ⟨e, rfl, hname, decodeNothing_eq_ok_iff.mp hempty⟩
        · rintro ⟨_, ⟨⟩, hname, hempty⟩
          exact ⟨q, hname, (), decodeNothing_eq_ok_iff.mpr hempty, rfl⟩
      | cons e' es => exact iff_of_false (by rintro ⟨⟩) (by rintro ⟨_, ⟨⟩, _⟩)
  | _ => exact iff_of_false (by rintro ⟨⟩) (by rintro ⟨⟩)

end Nodes

section Spellings

variable {v? v?' : Option Value}

/-- How the value of a name is written in a document: in a table, with any other keys, or as the
first value of an array. A table that is left out has no value, like one or an array without it. -/
inductive Spells (name : Text) : Option Value → Option Value → Prop
  | absent : Spells name none none
  | table (o : Origin) (es : Entries) : Spells name (some (.table o es)) (es.value? name)
  | array {v : Value} {items : List Node} (h : v.items? = some items) :
      Spells name (some v) (items.head?.map Located.value)

theorem Spells.of_table {name : Text} {o : Origin} (hv : v? = some (.table o es))
    (hx : es.value? name = v?') : Spells name v? v?' := by
  subst hv hx
  exact .table o es

theorem Spells.of_array {name : Text} {v : Value} {items : List Node}
    (hv : v? = some v) (h : v.items? = some items) (hx : items.head?.map Located.value = v?') :
    Spells name v? v?' := by
  subst hv hx
  exact .array h

/-- The policy that holds: the one that is told, or else the one that holds unless another one is
chosen. -/
inductive Tells : Option Value → Policy → Prop
  | nothing : Tells none default
  | policy {v : Value} {q : Policy} (h : NamesPolicy v q) : Tells (some v) q

theorem tells_none_iff : Tells none q ↔ q = default := by
  constructor
  · rintro ⟨⟩
    rfl
  · rintro rfl
    exact .nothing

theorem tells_some_iff {v : Value} : Tells (some v) q ↔ NamesPolicy v q := by
  constructor
  · rintro (_ | h)
    exact h
  · exact .policy

theorem Spells.decodeAppender_eq_ok_iff (h : Spells "sql".toList (some node.value) v?) :
    decodeAppender node = .ok t ↔ v? = some (.string t) := by
  rw [decodeAppender]
  generalize node.value = v at h ⊢
  cases h with
  | table o es =>
    simp only [bind_eq_ok_iff, field_eq_ok_iff, Entries.value?]
    cases es.node? "sql".toList with
    | none => simp [entered_none_iff, refuse]
    | some x => simp [entered_some_iff, decodeTemplate_eq_ok_iff]
  | @array _ items hitems =>
    obtain rfl | rfl := Value.items?_eq_some_iff.mp hitems
    all_goals
      cases items with
      | nil => simp [refuse]
      | cons x items => simp [within_eq_ok_iff, decodeTemplate_eq_ok_iff]

theorem Spells.decodeParser_eq_ok_iff (h : Spells "unterminated".toList (some node.value) v?) :
    decodeParser node = .ok q ↔ Tells v? q := by
  rw [decodeParser]
  generalize node.value = v at h ⊢
  cases h with
  | table o es =>
    simp only [bind_eq_ok_iff, field_eq_ok_iff, Entries.value?]
    cases es.node? "unterminated".toList with
    | none => simp [entered_none_iff, tells_none_iff, pure, Except.pure, eq_comm]
    | some x =>
      simp [entered_some_iff, decodePolicy_eq_ok_iff, tells_some_iff, pure, Except.pure]
  | @array _ items hitems =>
    obtain rfl | rfl := Value.items?_eq_some_iff.mp hitems
    all_goals
      cases items with
      | nil => simp [tells_none_iff, eq_comm]
      | cons x items => simp [within_eq_ok_iff, decodePolicy_eq_ok_iff, tells_some_iff]

variable {x? : Option Node}

theorem Spells.entered_appender_iff (h : Spells "sql".toList (x?.map Located.value) v?) :
    Entered decodeAppender none x? (some t) ↔ v? = some (.string t) := by
  cases x? with
  | none =>
    cases h
    simp [entered_none_iff]
  | some x => simp [entered_some_iff, h.decodeAppender_eq_ok_iff]

theorem Spells.entered_parser_iff (h : Spells "unterminated".toList (x?.map Located.value) v?) :
    (∃ q?, Entered decodeParser none x? q? ∧ q?.getD default = q) ↔ Tells v? q := by
  cases x? with
  | none =>
    cases h
    simp [entered_none_iff, tells_none_iff, eq_comm]
  | some x => simp [entered_some_iff, h.decodeParser_eq_ok_iff]

end Spellings

section Documents

variable {f : Node → Decoded α} {old new : Option α} {e : Key × Node} {p p' : Partly}

/-- An entry decoded first does not count again, as its name does not come again. -/
theorem entered_cons_iff {name : Text} (h : Entries.Distinct (e :: es)) :
    (∃ mid, Entered f old (Entries.node? [e] name) mid ∧ Entered f mid (es.node? name) new) ↔
      Entered f old (Entries.node? (e :: es) name) new := by
  by_cases hname : e.1.name = name
  · have htail : es.node? name = none := hname ▸ h.node?_tail
    simp only [Entries.node?_cons_of_eq hname, htail, entered_none_iff]
    exact exists_eq_right'
  · simp only [Entries.node?_cons_of_ne hname, Entries.node?_nil, entered_none_iff]
    exact exists_eq_left

theorem decodeEntry_eq_ok_iff :
    decodeEntry p e = .ok p' ↔
      Entered decodeAppender p.template (Entries.node? [e] "appender".toList) p'.template ∧
      Entered decodeParser p.policy (Entries.node? [e] "parser".toList) p'.policy := by
  have hne : "appender".toList ≠ "parser".toList := by decide
  obtain ⟨template, policy⟩ := p
  obtain ⟨template', policy'⟩ := p'
  unfold decodeEntry
  dsimp only
  split
  case isTrue hname =>
    rw [Entries.node?_cons_of_eq hname, Entries.node?_cons_of_ne (hname ▸ hne)]
    simp only [bind_eq_ok_iff, within_eq_ok_iff, entered_some_iff, Entries.node?_nil,
      entered_none_iff]
    constructor
    · rintro ⟨t, ht, ⟨⟩⟩
      exact ⟨⟨t, ht, rfl⟩, rfl⟩
    · rintro ⟨⟨t, ht, rfl⟩, rfl⟩
      exact ⟨t, ht, rfl⟩
  case isFalse hname =>
    rw [Entries.node?_cons_of_ne hname, Entries.node?_nil, entered_none_iff]
    split
    case isTrue hname' =>
      rw [Entries.node?_cons_of_eq hname']
      simp only [bind_eq_ok_iff, within_eq_ok_iff, entered_some_iff]
      constructor
      · rintro ⟨q, hq, ⟨⟩⟩
        exact ⟨rfl, q, hq, rfl⟩
      · rintro ⟨rfl, q, hq, rfl⟩
        exact ⟨q, hq, rfl⟩
    case isFalse hname' =>
      rw [Entries.node?_cons_of_ne hname', Entries.node?_nil, entered_none_iff]
      simp [eq_comm]

theorem foldlM_decodeEntry_eq_ok_iff (h : es.Distinct) :
    es.foldlM decodeEntry p = .ok p' ↔
      Entered decodeAppender p.template (es.node? "appender".toList) p'.template ∧
      Entered decodeParser p.policy (es.node? "parser".toList) p'.policy := by
  induction es generalizing p with
  | nil =>
    obtain ⟨template, policy⟩ := p
    obtain ⟨template', policy'⟩ := p'
    simp [Entries.node?_nil, entered_none_iff, pure, Except.pure, eq_comm]
  | cons e es ih =>
    -- The two halves of an entry's step meet at different values, which make up one state.
    rw [List.foldlM_cons, bind_eq_ok_iff, ← entered_cons_iff h, ← entered_cons_iff h]
    simp only [decodeEntry_eq_ok_iff, ih h.of_cons]
    constructor
    · rintro ⟨⟨m, m'⟩, ⟨ha, hp⟩, ha', hp'⟩
      exact ⟨⟨m, ha, ha'⟩, m', hp, hp'⟩
    · rintro ⟨⟨m, ha, ha'⟩, m', hp, hp'⟩
      exact ⟨⟨m, m'⟩, ⟨ha, hp⟩, ha', hp'⟩

/-- The settings that a document gives, by the two values that it tells them with. -/
theorem decode_eq_ok_iff {o : Origin} {d : Node} {s : Settings} {template policy : Option Value}
    (hd : d.value = .table o es) (distinct : es.Distinct)
    (htemplate : Spells "sql".toList (es.value? "appender".toList) template)
    (hpolicy : Spells "unterminated".toList (es.value? "parser".toList) policy) :
    decode d = .ok s ↔ template = some (.string s.template) ∧ Tells policy s.policy := by
  rw [← htemplate.entered_appender_iff, ← hpolicy.entered_parser_iff]
  unfold decode
  rw [hd]
  simp only [bind_eq_ok_iff, foldlM_decodeEntry_eq_ok_iff distinct]
  constructor
  · rintro ⟨⟨template?, policy?⟩, ⟨ht, hp⟩, h⟩
    cases template? with
    | none => cases h
    | some t =>
      cases h
      exact ⟨ht, policy?, hp, rfl⟩
  · rintro ⟨ht, policy?, hp, hq⟩
    refine ⟨⟨some s.template, policy?⟩, ⟨ht, hp⟩, ?_⟩
    show Except.ok ⟨s.template, policy?.getD default⟩ = Except.ok s
    rw [hq]

end Documents

section Agreement

variable {v w : Value} {t t' : Text} {d d' : Node} {s : Settings}
  {template template' policy policy' : Option Value}

/-- The two values that a document tells its settings with, each if it is there. -/
def Gives (d : Node) (template policy : Option Value) : Prop :=
  ∃ o es, d.value = .table o es ∧
    Spells "sql".toList (Entries.value? es "appender".toList) template ∧
    Spells "unterminated".toList (Entries.value? es "parser".toList) policy

theorem ofText_eq_ok_iff (hread : Toml.read t = .ok d) (h : Gives d template policy) :
    ofText t = .ok s ↔ template = some (.string s.template) ∧ Tells policy s.policy := by
  obtain ⟨o, es, hd, htemplate, hpolicy⟩ := h
  obtain ⟨es', hd', distinct⟩ := isDocument_of_read hread
  obtain ⟨-, rfl⟩ : o = .header ∧ es = es' := by simpa [hd] using hd'
  rw [← decode_eq_ok_iff hd distinct htemplate hpolicy, ofText, read, hread]
  simp only [bind, Except.bind]
  generalize decode d = r
  cases r <;> simp

theorem ofText_ok_or_invalid (t : Text) :
    (∃ s, ofText t = .ok s) ∨ ∃ c, ofText t = .error (.invalid t c) := by
  rw [ofText]
  cases read t with
  | ok s => exact .inl ⟨s, rfl⟩
  | error c => exact .inr ⟨c, rfl⟩

/-- The two name one policy, or none: they are the same, or the second one is a table that the
name is turned into. -/
inductive SamePolicy : Value → Value → Prop
  | same {v w : Value} (h : v.Same w) : SamePolicy v w
  | unfolded {o : Origin} (key : Key) {nothing : Node} (hempty : nothing.value.IsEmpty) :
      SamePolicy (.string key.name) (.table o [(key, nothing)])

theorem not_namesPolicy_of_items? {items : List Node} (h : v.items? = some items) :
    ¬ NamesPolicy v q := by
  obtain rfl | rfl := Value.items?_eq_some_iff.mp h <;> rintro ⟨⟩

theorem namesPolicy_iff_of_same (h : v.Same w) : NamesPolicy v q ↔ NamesPolicy w q := by
  cases h with
  | array hv hw => exact iff_of_false (not_namesPolicy_of_items? hv) (not_namesPolicy_of_items? hw)
  | table order names values =>
    -- A table of one entry has one order only.
    rw [namesPolicy_table_iff, namesPolicy_table_iff]
    constructor
    · rintro ⟨e, rfl, hname, hempty⟩
      obtain rfl := List.singleton_perm.mp order
      obtain ⟨f, _, hvalue, ⟨⟩, rfl⟩ := List.forall₂_cons_left_iff.mp values
      have hkey : e.1.name = f.1.name := List.singleton_inj.mp names
      exact ⟨f, rfl, hkey ▸ hname, hvalue.isEmpty_iff.mp hempty⟩
    · rintro ⟨f, rfl, hname, hempty⟩
      obtain ⟨e, _, hvalue, ⟨⟩, rfl⟩ := List.forall₂_cons_right_iff.mp values
      obtain rfl := List.perm_singleton.mp order
      have hkey : e.1.name = f.1.name := List.singleton_inj.mp names
      exact ⟨e, rfl, hkey.trans hname, hvalue.isEmpty_iff.mpr hempty⟩
  | _ => exact Iff.rfl

theorem SamePolicy.namesPolicy_iff (h : SamePolicy v w) : NamesPolicy v q ↔ NamesPolicy w q := by
  cases h with
  | same h => exact namesPolicy_iff_of_same h
  | unfolded key hempty =>
    rw [namesPolicy_string_iff, namesPolicy_table_iff]
    constructor
    · intro hname
      exact ⟨_, rfl, hname, hempty⟩
    · rintro ⟨_, ⟨⟩, hname, _⟩
      exact hname

theorem tells_iff_of_samePolicy (h : Option.Rel SamePolicy policy policy') :
    Tells policy q ↔ Tells policy' q := by
  cases h with
  | some h => rw [tells_some_iff, tells_some_iff, h.namesPolicy_iff]
  | none => exact Iff.rfl

theorem eq_string_iff_of_same (h : Option.Rel Value.Same template template') :
    template = some (.string t) ↔ template' = some (.string t) := by
  cases h with
  | some h => simpa using h.eq_string_iff t
  | none => exact Iff.rfl

/-- A value that is no table tells a policy by its name only. -/
theorem tells_iff_of_ne_table (h : ∀ o es, policy ≠ some (.table o es)) :
    Tells policy q ↔ policy = none ∧ q = .verbatim ∨ policy = some (.string q.name) := by
  constructor
  · rintro (_ | ⟨_ | _⟩)
    · exact .inl ⟨rfl, rfl⟩
    · exact .inr rfl
    · exact absurd rfl (h _ _)
  · rintro (⟨rfl, rfl⟩ | rfl)
    · exact .nothing
    · exact .policy (.name q)

/-- Two documents give the same settings or none if their two values are the same, whatever else
they hold, in whatever order, and whether the values stand in tables or in arrays; a policy's name
may be turned into a table. Where the policy is no table, the template has to be a string, and the
policy one of the names if it is there. -/
theorem settings_of_same_values (hread : Toml.read t = .ok d) (hread' : Toml.read t' = .ok d')
    (hgives : Gives d template policy) (hgives' : Gives d' template' policy')
    (sameTemplate : Option.Rel Value.Same template template')
    (samePolicy : Option.Rel SamePolicy policy policy') :
    ((∃ s, ofText t = .ok s ∧ ofText t' = .ok s) ∨
      ∃ c c', ofText t = .error (.invalid t c) ∧ ofText t' = .error (.invalid t' c')) ∧
    ((∀ o es, policy ≠ some (.table o es)) → ∀ s, ofText t = .ok s ↔
      template = some (.string s.template) ∧
        (policy = none ∧ s.policy = .verbatim ∨ policy = some (.string s.policy.name))) := by
  have hagree : ∀ s, ofText t = .ok s ↔ ofText t' = .ok s := by
    intro s
    rw [ofText_eq_ok_iff hread hgives, ofText_eq_ok_iff hread' hgives',
      eq_string_iff_of_same sameTemplate, tells_iff_of_samePolicy samePolicy]
  refine ⟨?_, ?_⟩
  · obtain ⟨s, hs⟩ | ⟨c, hc⟩ := ofText_ok_or_invalid t
    · exact .inl ⟨s, hs, (hagree s).mp hs⟩
    · obtain ⟨s, hs⟩ | ⟨c', hc'⟩ := ofText_ok_or_invalid t'
      · cases hc.symm.trans ((hagree s).mpr hs)
      · exact .inr ⟨c, c', hc, hc'⟩
  · intro hpolicy s
    rw [ofText_eq_ok_iff hread hgives, tells_iff_of_ne_table hpolicy]

set_option maxRecDepth 4096 in
/-- Two tables after another key, and two arrays in the other order. -/
theorem settings_of_same_values_in_tables_and_arrays :
    ∃ t t' d d' policy', Toml.read t = .ok d ∧ Toml.read t' = .ok d' ∧
      Gives d (some (.string ['%'])) (some (.string Policy.reject.name)) ∧
      Gives d' (some (.string ['%'])) (some policy') ∧
      SamePolicy (.string Policy.reject.name) policy' ∧
      ofText t = .ok ⟨['%'], .reject⟩ ∧ ofText t' = .ok ⟨['%'], .reject⟩ := by
  have htables : ∃ t d, Toml.read t = .ok d ∧
      Gives d (some (.string ['%'])) (some (.string Policy.reject.name)) := by
    refine ⟨"x='y'\n[parser]\nunterminated='reject'\n[appender]\nz='w'\nsql='%'".toList, _,
      by cbv, _, _, rfl, .of_table rfl rfl, .of_table rfl rfl⟩
  have harrays : ∃ t d policy, Toml.read t = .ok d ∧ Gives d (some (.string ['%'])) (some policy) ∧
      SamePolicy (.string Policy.reject.name) policy := by
    refine ⟨"appender=['%']\nparser=[\x7breject=\x7b\x7d\x7d]".toList, _,
      .table .braces [(⟨Policy.reject.name, ⟨24, 30⟩⟩, ⟨.table .braces [], some ⟨31, 33⟩⟩)],
      by cbv, ?_, .unfolded ⟨_, _⟩ (.table _)⟩
    exact ⟨_, _, rfl, .of_array rfl rfl rfl, .of_array rfl rfl rfl⟩
  obtain ⟨t, d, hread, hgives⟩ := htables
  obtain ⟨t', d', policy', hread', hgives', samePolicy⟩ := harrays
  have h := settings_of_same_values hread hread' hgives hgives' (.some (.refl _)) (.some samePolicy)
  have ht : ofText t = .ok ⟨['%'], .reject⟩ := (h.2 (by rintro _ _ ⟨⟩) _).mpr ⟨rfl, .inr rfl⟩
  have ht' : ofText t' = .ok ⟨['%'], .reject⟩ := by
    obtain ⟨s, hs, hs'⟩ | ⟨c, _, hc, _⟩ := h.1
    · cases hs.symm.trans ht
      exact hs'
    · cases hc.symm.trans ht
  exact ⟨t, t', d, d', policy', hread, hread', hgives, hgives', samePolicy, ht, ht'⟩

end Agreement

end Settings

end SqlTemplate
