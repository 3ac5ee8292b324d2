import ModuleBundler.Proofs.Chunk.Script
import ModuleBundler.Proofs.Json.Written
import ModuleBundler.Proofs.Script.Value

/-! A quoted text is one literal, of JSON and of the script language alike. Nothing in it ends the
literal before its last quote, whatever stands behind it, and in both languages its value is the
text that was quoted. So the quoted forms of two texts differ if the texts do, and neither begins
the other; and in a registry modules with different names have different keys. -/
namespace ModuleBundler

namespace Text

section Escapes

/-- Whether what stands behind a text is escaped, from whether the text itself is. A backslash
escapes the character behind it, unless it is escaped. -/
def escapes (escaped : Bool) : List Char → Bool
  | [] => escaped
  | c :: more => escapes (!escaped && c == '\\') more

theorem escapes_append (escaped : Bool) (text more : List Char) :
    escapes escaped (text ++ more) = escapes (escapes escaped text) more := by
  induction text generalizing escaped with
  | nil => rfl
  | cons c text ih => exact ih _

/-- What may stand between two double quotes as a whole: each double quote in it is escaped, the one
behind it is not, and it has no control characters. -/
structure Enclosed (text : List Char) : Prop where
  escaped : ∀ before after, text = before ++ '"' :: after → escapes false before = true
  closed : escapes false text = false
  no_control : ∀ c ∈ text, 0x20 ≤ c.toNat

variable {c : Char} {text text' : List Char}

theorem Enclosed.nil : Enclosed [] where
  escaped before after h := by simp at h
  closed := rfl
  no_control := nofun

theorem Enclosed.append (h : Enclosed text) (h' : Enclosed text') : Enclosed (text ++ text') where
  escaped before after heq := by
    rcases List.append_eq_append_iff.1 heq with ⟨front, rfl, hfront⟩ | ⟨back, hback, hquote⟩
    · rw [escapes_append, h.closed]
      exact h'.escaped front after hfront
    · cases back with
      | nil =>
        -- the quote would begin the second text, where nothing is escaped
        have hfirst := h'.escaped [] after hquote.symm
        cases hfirst
      | cons c more =>
        obtain ⟨rfl, -⟩ := List.cons.inj hquote
        exact h.escaped before more hback
  closed := by
    rw [escapes_append, h.closed]
    exact h'.closed
  no_control c hc := (List.mem_append.1 hc).elim (h.no_control c) (h'.no_control c)

theorem enclosed_singleton (hquote : c ≠ '"') (hslash : c ≠ '\\') (hc : 0x20 ≤ c.toNat) :
    Enclosed [c] where
  escaped before after h := by
    cases before with
    | nil => exact absurd (List.cons.inj h).1 hquote
    | cons b more => simp at h
  closed := by simp [escapes, hslash]
  no_control d hd := List.mem_singleton.1 hd ▸ hc

theorem enclosed_escape (hc : 0x20 ≤ c.toNat) : Enclosed ['\\', c] where
  escaped before after h := by
    match before with
    | [] => cases (List.cons.inj h).1
    | [b] =>
      obtain ⟨rfl, -⟩ := List.cons.inj h
      rfl
    | b :: b' :: more => simp at h
  closed := rfl
  no_control := List.forall_mem_cons.2 ⟨by decide, List.forall_mem_singleton.2 hc⟩

theorem enclosed_of_plain (h : ∀ c ∈ text, c ≠ '"' ∧ c ≠ '\\' ∧ 0x20 ≤ c.toNat) :
    Enclosed text := by
  induction text with
  | nil => exact .nil
  | cons c more ih =>
    obtain ⟨⟨hquote, hslash, hc⟩, hmore⟩ := List.forall_mem_cons.1 h
    exact (enclosed_singleton hquote hslash hc).append (ih hmore)

theorem letters_no_control : ∀ p ∈ letters, 0x20 ≤ p.2.toNat := by decide

theorem hexPair_plain {n : Nat} (h : n < 0x20) :
    ∀ c ∈ ['0', '0'] ++ hexPair n, c ≠ '"' ∧ c ≠ '\\' ∧ 0x20 ≤ c.toNat := by
  have hall : ((['0', '0'] ++ hexPair n).all fun c =>
      c != '"' && (c != '\\' && decide (0x20 ≤ c.toNat))) = true := by
    revert n
    decide
  intro c hc
  simpa using List.all_eq_true.1 hall c hc

theorem enclosed_quoteChar (c : Char) : Enclosed (quoteChar c) := by
  obtain ⟨d, hletter, hchars⟩ | ⟨hcontrol, hchars⟩ | ⟨hquote, hslash, hplain, hchars⟩ :=
    quoteChar_cases c
  · rw [hchars]
    exact enclosed_escape (letters_no_control _ hletter)
  · rw [hchars]
    exact (enclosed_escape (by decide)).append (enclosed_of_plain (hexPair_plain hcontrol))
  · rw [hchars]
    exact enclosed_singleton hquote hslash (Nat.not_lt.1 hplain)

theorem enclosed_flatMap_quoteChar (cs : List Char) : Enclosed (cs.flatMap quoteChar) := by
  induction cs with
  | nil => exact .nil
  | cons c more ih => exact (enclosed_quoteChar c).append ih

end Escapes

end Text

namespace Json

theorem takes_value_quote (levels : Nat) (s : String) (rest : List Char) :
    Reader.Takes (Reader.value (levels + 1)) ((Text.quote s).toList ++ rest) (.string s) rest := by
  rw [Text.toList_quote, Text.quoteChars_append]
  exact (Reader.takes_peekValue .nil rfl _).bind
    ((Reader.takes_eat '"' _).bind (Reader.takes_string s rest).map)

theorem parse_quote (s : String) : parse (Text.quote s) = .ok (.string s) := by
  have htakes := takes_value_quote maxNesting s []
  rw [List.append_nil] at htakes
  exact Reader.run_eq_ok htakes

end Json

namespace Chunk

open Script Script.Parser

/-- The key of a property that the parser comes to, if it reads one without a fault and a colon
follows. -/
def readKey? (g : Grammar) (s : State) : Option String :=
  match propertyKey g s with
  | .ok (key, bracketed) s' =>
    if s'.faults.isEmpty && s'.token.kind == .mark .colon then keyText? key bracketed else none
  | .error .. => none

/-- The key of the property that stands at the front of a text. -/
def keyAt? (text : List Char) : Option String :=
  match Lexer.next false true ⟨text, 0⟩ with
  | ⟨token, none⟩ => readKey? (Program.grammar .script text) (Program.startState .script token)
  | _ => none

theorem readKey?_of_sees {s : State} {value : List Char} {lone : Bool}
    (h : s.Sees [.string value lone, .mark .colon]) (hfaults : (s.skip 1).faults = []) (n : Nat) :
    readKey? (level n) s = some (String.ofList value) := by
  have hleaf : keyLeaf? s.token = some (.leaf .text s.token.span (String.ofList value)) := by
    simp [keyLeaf?, h.1.1]
  have hkey := run_propertyKey (n := n) hleaf h.1.2
  have hcolon : (s.skip 1).token.kind = .mark .colon := h.2.1.1
  simp [readKey?, hkey, hfaults, hcolon, keyText?]

theorem keyAt?_quote (id : String) (rest : List Char) :
    keyAt? ("    ".toList ++ (Text.quote id).toList ++ ':' :: rest) = some id := by
  have hcolon : Opens (':' :: rest) :=
    (shows_mark (m := .colon) (c := none) rfl nofun).opens nofun
  have hquoted : Worded [.blank ' ', .blank ' ', .blank ' ', .blank ' ', .quoted id]
      ("    ".toList ++ (Text.quote id).toList) [.string id.toList false] :=
    ⟨by simp [spelled, Piece.text], rfl, rfl⟩
  obtain ⟨t, hnext, -⟩ := hquoted.opens hcolon true 0
  have hat : (Program.startState .script t).At
      ("    ".toList ++ (Text.quote id).toList ++ ':' :: rest) := ⟨true, 0, hnext⟩
  obtain ⟨hsees, hleads⟩ := hquoted.passes hat hcolon
  have hbehind := hleads.at_rest.sees_mark (m := .colon) rfl
  have hread := readKey?_of_sees (hsees.append hbehind) hleads.faults_eq
  rw [String.ofList_toList] at hread
  unfold keyAt?
  rw [hnext]
  exact hread _

/-- The member of a module has the name of the module for its key, whatever the source of the module
is and whatever stands behind it. -/
theorem keyAt?_member (m : Module) (rest : List Char) :
    keyAt? ((member m).toList ++ rest) = some m.id := by
  have hcolon : ": ".toList = [':', ' '] := by decide
  rw [member_append, memberKey, hcolon]
  simpa only [List.append_assoc, List.cons_append] using keyAt?_quote m.id _

end Chunk

theorem Path.setsPrototype_moduleId (root path : Path) (x : Script.Value) :
    Script.Setting.setsPrototype ⟨false, Path.moduleId root path, x⟩ = false := by
  have hne : Path.moduleId root path ≠ Script.Setting.prototypeKey := by
    intro h
    have hhead := congrArg (fun s => s.toList.head?) h
    simp [Path.moduleId, Script.Setting.prototypeKey] at hhead
  simpa [Script.Setting.setsPrototype] using hne

namespace Text

/-- A text is one literal of JSON and of the script language, with a value: it is read as a whole in
either language, whatever stands behind it. -/
structure IsLiteral (spelling : List Char) (value : String) : Prop where
  enclosed : ∃ inside, spelling = '"' :: (inside ++ ['"']) ∧ Enclosed inside
  document : Json.parse (String.ofList spelling) = .ok (.string value)
  json : ∀ levels rest, Json.Reader.Takes (Json.Reader.value (levels + 1)) (spelling ++ rest)
    (.string value) rest
  script : Script.SpellsString spelling value.toList

theorem isLiteral_quote (s : String) : IsLiteral (quote s).toList s where
  enclosed := ⟨_, toList_quote s, enclosed_flatMap_quoteChar s.toList⟩
  document := by
    rw [String.ofList_toList]
    exact Json.parse_quote s
  json levels rest := Json.takes_value_quote levels s rest
  script := Script.spellsString_quote s

example : quote "a\"\\\n\x01" = "\"a\\\"\\\\\\n\\u0001\"" := by decide

theorem quote_append_inj {s s' : String} {rest rest' : List Char} :
    (quote s).toList ++ rest = (quote s').toList ++ rest' ↔ s = s' ∧ rest = rest' := by
  constructor
  · intro h
    obtain ⟨hvalue, hrest⟩ := (isLiteral_quote s).script.unique (isLiteral_quote s').script h
    exact ⟨String.toList_inj.1 hvalue, hrest⟩
  · rintro ⟨rfl, rfl⟩
    rfl

theorem quote_injective : Function.Injective quote := by
  intro s s' h
  have hboth : (quote s).toList ++ [] = (quote s').toList ++ [] := by rw [h]
  exact (quote_append_inj.1 hboth).1

/-- A quoted text is one literal, whose value is the text that was quoted. So quoting keeps texts
apart and no literal ends early: it is told, with all that stands behind it, by any text that begins
with it. In a registry the members of two modules have one key just if the modules have one name,
and no name of a module is the key that sets a prototype instead of defining a property. -/
theorem quote_is_one_literal (s : String) :
    IsLiteral (quote s).toList s ∧ Function.Injective quote ∧
    (∀ s' rest rest', (quote s).toList ++ rest = (quote s').toList ++ rest' ↔
      s = s' ∧ rest = rest') ∧
    (∀ m rest, Chunk.keyAt? ((Chunk.member m).toList ++ rest) = some m.id) ∧
    (∀ m m' rest rest', Chunk.keyAt? ((Chunk.member m).toList ++ rest) =
      Chunk.keyAt? ((Chunk.member m').toList ++ rest') ↔ m.id = m'.id) ∧
    ∀ root path x, Script.Setting.setsPrototype ⟨false, Path.moduleId root path, x⟩ = false := by
  refine ⟨isLiteral_quote s, quote_injective, fun s' rest rest' => quote_append_inj,
    Chunk.keyAt?_member, fun m m' rest rest' => ?_, Path.setsPrototype_moduleId⟩
  rw [Chunk.keyAt?_member, Chunk.keyAt?_member, Option.some.injEq]

end Text

end ModuleBundler
