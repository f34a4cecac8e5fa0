import SqlTemplate.Proofs.WrittenTables
import SqlTemplate.SettingsFile

/-! # Settings that are written are read back

A template is written as the SQL of a statement is, in the table of the appender, and a policy by
its name, in the table of the parser.
-/
namespace SqlTemplate.Settings

open Toml

variable {node : Node} {x : Key × Node} {s : Text} {p : Policy}

section Decoding

theorem policyNamed_name (p : Policy) (place : Option Span) : policyNamed p.name place = .ok p := by
  cases p <;> rfl

theorem field_singleton {α : Type} (name : String) {decode : Node → Decoded α} {a : α}
    (hname : x.1.name = name.toList) (h : decode x.2 = .ok a) :
    field name [x] decode = .ok (some a) := by
  simp [field, Entries.get?, hname, h, within, Except.map]

/-- A table of one string. -/
def IsString (node : Node) (name value : Text) : Prop :=
  ∃ x : Key × Node, node.value = .table .header [x] ∧ x.1.name = name ∧ x.2.value = .string value

theorem IsString.decodeAppender_eq (h : IsString node "sql".toList s) :
    decodeAppender node = .ok s := by
  obtain ⟨x, hnode, hname, hx⟩ := h
  have hfield : field "sql" [x] decodeTemplate = .ok (some s) :=
    field_singleton "sql" hname (by rw [decodeTemplate, hx])
  rw [decodeAppender, hnode]
  simp only [hfield]
  rfl

theorem IsString.decodeParser_eq (h : IsString node "unterminated".toList p.name) :
    decodeParser node = .ok p := by
  obtain ⟨x, hnode, hname, hx⟩ := h
  have hfield : field "unterminated" [x] decodePolicy = .ok (some p) :=
    field_singleton "unterminated" hname (by rw [decodePolicy, hx]; exact policyNamed_name p _)
  rw [decodeParser, hnode]
  simp only [hfield]
  rfl

end Decoding

/-- A table of one string, with what it enters in the settings. -/
structure Part where
  name : Text
  key : Text
  value : Text
  enter : Partly → Partly
  bareName : IsBare name
  bareKey : IsBare key
  decodes : ∀ (x : Key × Node) (q : Partly), x.1.name = name → IsString x.2 key value →
    decodeEntry q x = .ok (enter q)

namespace Part

def ofTemplate (s : Text) : Part where
  name := "appender".toList
  key := "sql".toList
  value := s
  enter q := { q with template := some s }
  bareName := ⟨by decide, by decide⟩
  bareKey := ⟨by decide, by decide⟩
  decodes x q hname h := by
    simp only [decodeEntry, hname, h.decodeAppender_eq]
    rfl

def ofPolicy (p : Policy) : Part where
  name := "parser".toList
  key := "unterminated".toList
  value := p.name
  enter q := { q with policy := some p }
  bareName := ⟨by decide, by decide⟩
  bareKey := ⟨by decide, by decide⟩
  decodes x q hname h := by
    simp only [decodeEntry, hname, h.decodeParser_eq]
    rfl

def table (gap : Nat) (a : Part) : WrittenTable where
  gap := gap
  name := a.name
  entries := [.ofString a.key a.value a.bareKey]
  bare := a.bareName
  distinct := by simp

theorem decodeEntry_eq {gap : Nat} {a : Part} (h : (a.table gap).Is x) (q : Partly) :
    decodeEntry q x = .ok (a.enter q) := by
  obtain ⟨hname, es, hes, hentries⟩ := h
  cases hentries with
  | cons hentry hnil =>
    cases hnil
    exact a.decodes x q hname ⟨_, hes, hentry⟩

/-- The settings as a document, each part with the number of empty lines in front of its table. -/
def document (parts : List (Nat × Part)) : Text :=
  WrittenTable.document (parts.map fun part => part.2.table part.1)

theorem foldlM_decodeEntry {parts : List (Nat × Part)} {es : Entries}
    (h : List.Forall₂ WrittenTable.Is (parts.map fun part => part.2.table part.1) es) (q : Partly) :
    es.foldlM decodeEntry q = .ok (parts.foldl (fun q part => part.2.enter q) q) := by
  induction parts generalizing q es with
  | nil =>
    cases h
    rfl
  | cons part parts ih =>
    cases h with
    | cons hx hes =>
      rw [List.foldlM_cons, decodeEntry_eq hx q]
      exact ih hes _

/-- The template is wanted, and the policy may be left out. -/
theorem ofText_document (parts : List (Nat × Part)) (policy : Option Policy)
    (distinct : (parts.map fun part => part.2.name).Nodup)
    (told : parts.foldl (fun q part => part.2.enter q) ⟨none, none⟩ = ⟨some s, policy⟩) :
    ofText (document parts) = .ok ⟨s, policy.getD default⟩ := by
  have hnames : ((parts.map fun part => part.2.table part.1).map WrittenTable.name).Nodup := by
    rwa [List.map_map]
  obtain ⟨es, span, hread, hes⟩ := WrittenTable.read_document _ hnames
  have hfold := foldlM_decodeEntry hes ⟨none, none⟩
  rw [told] at hfold
  have hdecode : decode ⟨.table .header es, some span⟩ = .ok ⟨s, policy.getD default⟩ := by
    simp only [decode, hfold]
    rfl
  rw [ofText, read, document, hread]
  simp only [bind, Except.bind, hdecode]

end Part

section Documents

/-- A template is written as the SQL of a statement is. -/
def appenderText (s : Text) : Text := "[appender]\nsql = ".toList ++ writeString s ++ ['\n']

def parserText (p : Policy) : Text := "[parser]\nunterminated = \"".toList ++ p.name ++ ['"', '\n']

theorem text_table_template (gap : Nat) (s : Text) :
    ((Part.ofTemplate s).table gap).text = emptyLines gap ++ appenderText s := by
  unfold WrittenTable.text Part.table headerLine WrittenEntry.lines WrittenEntry.line
    WrittenEntry.ofString Part.ofTemplate appenderText
  simp

theorem writeString_name (p : Policy) : writeString p.name = '"' :: p.name ++ ['"'] := by
  cases p <;> decide

theorem text_table_policy (gap : Nat) (p : Policy) :
    ((Part.ofPolicy p).table gap).text = emptyLines gap ++ parserText p := by
  unfold WrittenTable.text Part.table headerLine WrittenEntry.lines WrittenEntry.line
    WrittenEntry.ofString Part.ofPolicy parserText
  simp [writeString_name]

/-- Settings are read back, whatever characters the template has. The two tables may come in any
order; without the second one open literals are copied. -/
theorem written_settings_read_back (s : Text) (p : Policy) (m n : Nat) :
    ofText (emptyLines m ++ appenderText s ++ emptyLines n ++ parserText p) = .ok ⟨s, p⟩ ∧
    ofText (emptyLines m ++ parserText p ++ emptyLines n ++ appenderText s) = .ok ⟨s, p⟩ ∧
    ofText (emptyLines m ++ appenderText s) = .ok ⟨s, .verbatim⟩ ∧
    prepare ⟨s, p⟩ = SqlTemplate.prepare p s := by
  have happender : Part.document [(m, .ofTemplate s)] = emptyLines m ++ appenderText s := by
    simp [Part.document, WrittenTable.document, text_table_template]
  have hboth : Part.document [(m, .ofTemplate s), (n, .ofPolicy p)] =
      emptyLines m ++ appenderText s ++ emptyLines n ++ parserText p := by
    simp [Part.document, WrittenTable.document, text_table_template, text_table_policy]
  have hswapped : Part.document [(m, .ofPolicy p), (n, .ofTemplate s)] =
      emptyLines m ++ parserText p ++ emptyLines n ++ appenderText s := by
    simp [Part.document, WrittenTable.document, text_table_template, text_table_policy]
  have hnames : ["appender".toList, "parser".toList].Nodup := by decide
  have hnames' : ["parser".toList, "appender".toList].Nodup := by decide
  rw [← hboth, ← hswapped, ← happender]
  exact ⟨Part.ofText_document [(m, .ofTemplate s), (n, .ofPolicy p)] (some p) hnames rfl,
    Part.ofText_document [(m, .ofPolicy p), (n, .ofTemplate s)] (some p) hnames' rfl,
    Part.ofText_document [(m, .ofTemplate s)] none (List.pairwise_singleton _ _) rfl, rfl⟩

end Documents

end SqlTemplate.Settings
