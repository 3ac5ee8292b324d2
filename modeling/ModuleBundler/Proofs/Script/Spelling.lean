import ModuleBundler.Proofs.Edit.Substitution
import ModuleBundler.Script.Lexer

/-! Texts that are read as one token wherever they stand: the name of the loader, and a quoted text,
whose value is the text that was quoted. -/
namespace ModuleBundler.Script

open Lexer

/-- Wherever it stands before a text, a spelling is read as one token of some kind. -/
def ReadsAs (spelling rest : List Char) (kind : TokenKind) (text : List Char) : Prop :=
  ∀ (isModule broken : Bool) (pos : Nat), ∃ t,
    next isModule broken ⟨spelling ++ rest, pos⟩ = sound t ∧ t.kind = kind ∧ t.text = text ∧
      t.span = ⟨pos, pos + byteLength spelling⟩ ∧ t.rest = rest

def NoNamePart (rest : List Char) : Prop :=
  ∀ c, rest.head? = some c → isNamePart c = false ∧ c ≠ '\\'

/-- Read as a string literal, whatever stands behind it. -/
def SpellsString (spelling value : List Char) : Prop :=
  ∀ rest, ReadsAs spelling rest (.string value false) []

section Name

theorem readName_stop {rest : List Char} (hrest : NoNamePart rest) (bound : List Char) (pos : Nat)
    (taken : List Char) (escaped ok : Bool) :
    readName bound ⟨rest, pos⟩ taken escaped ok = (taken, ⟨rest, pos⟩, escaped, ok) := by
  cases bound with
  | nil => rfl
  | cons b bound =>
    cases rest with
    | nil => rfl
    | cons c rest =>
      obtain ⟨hpart, hescape⟩ := hrest c rfl
      simp [readName, hescape, hpart]

theorem readName_append {cs rest : List Char} (hcs : ∀ c ∈ cs, isNamePart c = true)
    (hrest : NoNamePart rest) (pos : Nat) (taken : List Char) (escaped ok : Bool) :
    readName (cs ++ rest) ⟨cs ++ rest, pos⟩ taken escaped ok =
      (cs.reverse ++ taken, ⟨rest, pos + byteLength cs⟩, escaped, ok) := by
  induction cs generalizing pos taken with
  | nil => exact readName_stop hrest rest pos taken escaped ok
  | cons c more ih =>
    obtain ⟨hpart, hmore⟩ := List.forall_mem_cons.1 hcs
    have hescape : c ≠ '\\' := by
      rintro rfl
      exact absurd hpart (by decide)
    have hstep : readName (c :: more ++ rest) ⟨c :: more ++ rest, pos⟩ taken escaped ok =
        readName (more ++ rest) ⟨more ++ rest, pos + c.utf8Size⟩ (c :: taken) escaped ok := by
      simp [readName, hescape, hpart]
    rw [hstep, ih hmore]
    simp [Nat.add_assoc]

theorem name_append {cs rest : List Char} (hcs : ∀ c ∈ cs, isNamePart c = true) (hne : cs ≠ [])
    (hplain : Keyword.ofChars? cs = none) (hrest : NoNamePart rest) (broken : Bool) (pos : Nat) :
    name broken ⟨cs ++ rest, pos⟩ = sound
      { token .name broken ⟨cs ++ rest, pos⟩ ⟨rest, pos + byteLength cs⟩ with text := cs } := by
  rw [name, readName_append hcs hrest]
  simp [hplain, checked, sound, hne, token]

theorem tokenAt_loaderName {rest : List Char} (hrest : NoNamePart rest) (broken : Bool)
    (pos : Nat) : tokenAt broken ⟨loaderName.toList ++ rest, pos⟩ = sound
      { token .name broken ⟨loaderName.toList ++ rest, pos⟩
        ⟨rest, pos + byteLength loaderName.toList⟩ with text := loaderName.toList } := by
  have hname : tokenAt broken ⟨loaderName.toList ++ rest, pos⟩ =
      name broken ⟨loaderName.toList ++ rest, pos⟩ := rfl
  rw [hname, name_append ?_ ?_ ?_ hrest]
  · exact List.all_eq_true.1 (by decide)
  · decide
  · decide +kernel

end Name

section Quoted

theorem hexPair_spec {n : Nat} (h : n < 32) :
    (['0', '0'] ++ Text.hexPair n).all isHexDigit = true ∧
      hexValue (['0', '0'] ++ Text.hexPair n) = n ∧
      byteLength (['0', '0'] ++ Text.hexPair n) = 4 ∧
      isHighSurrogate n = false ∧ isLowSurrogate n = false := by
  revert n
  decide

theorem readEscape_control {c : Char} (h : c.toNat < 32) (rest : List Char) (pos : Nat) :
    readEscape false 'u' (['0', '0'] ++ Text.hexPair c.toNat ++ rest) pos =
      (.value [.char c], ⟨rest, pos + 5⟩) := by
  obtain ⟨hdigits, hvalue, -, hhigh, hlow⟩ := hexPair_spec h
  have hcode : codePoint? (['0', '0'] ++ Text.hexPair c.toNat ++ rest) (pos + 1) =
      some (c.toNat, ⟨rest, pos + 5⟩) := by
    rw [Text.hexPair] at hdigits hvalue ⊢
    simp only [List.cons_append, List.nil_append] at hdigits hvalue ⊢
    simp only [codePoint?, hexQuad?, hdigits, if_true, hvalue]
    rfl
  have hunit : TextUnit.ofNat c.toNat = .char c := by
    rw [TextUnit.ofNat, hhigh, hlow, Char.ofNat_toNat]
    rfl
  show unicodeEscape _ (pos + 1) = _
  rw [unicodeEscape, hcode]
  simp [hhigh, hunit]

theorem readString_escape {d : Char} {rest : List Char} {pos : Nat} {more : List TextUnit}
    {next : Cursor} (h : readEscape false d rest (pos + 1) = (.value more, next)) (b : Char)
    (bound : List Char) (units : List TextUnit) (sound : Bool) :
    readString '"' (b :: bound) ⟨'\\' :: d :: rest, pos⟩ units sound =
      readString '"' bound next (more.reverse ++ units) sound := by
  have hsize : Char.utf8Size '\\' = 1 := rfl
  simp [readString, hsize, h]

theorem readString_quoteChar (c b : Char) (bound rest : List Char) (pos : Nat)
    (units : List TextUnit) :
    readString '"' (b :: bound) ⟨Text.quoteChar c ++ rest, pos⟩ units true =
      readString '"' bound ⟨rest, pos + byteLength (Text.quoteChar c)⟩ (.char c :: units) true := by
  obtain ⟨d, hletter, hchars⟩ | ⟨hcontrol, hchars⟩ | ⟨hquote, hslash, hplain, hchars⟩ :=
    Text.quoteChar_cases c
  · simp only [Text.letters, List.mem_cons, Prod.mk.injEq, List.not_mem_nil, or_false] at hletter
    rcases hletter with
      ⟨rfl, -⟩ | ⟨rfl, -⟩ | ⟨rfl, -⟩ | ⟨rfl, -⟩ | ⟨rfl, -⟩ | ⟨rfl, -⟩ | ⟨rfl, -⟩ <;> rfl
  · have hlength : byteLength (Text.quoteChar c) = 6 := by
      rw [hchars, byteLength_cons, byteLength_cons, (hexPair_spec hcontrol).2.2.1]
      rfl
    rw [hlength, hchars]
    exact readString_escape (readEscape_control hcontrol rest (pos + 1)) b bound units true
  · have hnewline : c ≠ '\n' := by
      rintro rfl
      exact hplain (by decide)
    have hreturn : c ≠ '\r' := by
      rintro rfl
      exact hplain (by decide)
    simp [hchars, readString, hquote, hslash, hnewline, hreturn]

theorem readString_quoted (cs : List Char) {bound : List Char} (hbound : cs.length < bound.length)
    (rest : List Char) (pos : Nat) (units : List TextUnit) :
    readString '"' bound ⟨cs.flatMap Text.quoteChar ++ '"' :: rest, pos⟩ units true =
      ⟨(cs.map TextUnit.char).reverse ++ units,
        ⟨rest, pos + byteLength (cs.flatMap Text.quoteChar) + 1⟩, true, true⟩ := by
  induction cs generalizing bound pos units with
  | nil =>
    obtain ⟨b, bound, rfl⟩ := List.exists_cons_of_ne_nil (List.ne_nil_of_length_pos hbound)
    rfl
  | cons c more ih =>
    obtain ⟨b, bound, rfl⟩ := List.exists_cons_of_ne_nil
      (List.ne_nil_of_length_pos (Nat.lt_of_le_of_lt (Nat.zero_le _) hbound))
    rw [List.flatMap_cons, List.append_assoc, readString_quoteChar,
      ih (Nat.lt_of_succ_lt_succ hbound)]
    simp [Nat.add_assoc]

theorem spellUnits_chars (cs : List Char) : spellUnits (cs.map TextUnit.char) = (cs, false) := by
  simp [spellUnits, List.any_map, Function.comp_def, List.flatMap_map]

theorem string_quoted (cs rest : List Char) (broken : Bool) (pos : Nat) :
    string broken ⟨Text.quoteChars cs ++ rest, pos⟩ '"' (cs.flatMap Text.quoteChar ++ '"' :: rest) =
      sound (token (.string cs false) broken ⟨Text.quoteChars cs ++ rest, pos⟩
        ⟨rest, pos + byteLength (Text.quoteChars cs)⟩) := by
  have hbound : cs.length < ('"' :: (cs.flatMap Text.quoteChar ++ '"' :: rest)).length := by
    have hlength := Text.length_le_flatMap_quoteChar cs
    simp only [List.length_cons, List.length_append]
    omega
  have hlength : pos + 1 + byteLength (cs.flatMap Text.quoteChar) + 1 =
      pos + byteLength (Text.quoteChars cs) := by
    rw [Text.quoteChars, byteLength_cons, byteLength_append, byteLength_cons]
    simp [Char.utf8Size]
    omega
  rw [string, readString_quoted cs hbound, hlength]
  simp [spellUnits_chars, checked, sound]

theorem tokenAt_quoted (broken : Bool) (cs rest : List Char) (pos : Nat) :
    tokenAt broken ⟨Text.quoteChars cs ++ rest, pos⟩ =
      sound (token (.string cs false) broken ⟨Text.quoteChars cs ++ rest, pos⟩
        ⟨rest, pos + byteLength (Text.quoteChars cs)⟩) := by
  have hstring : tokenAt broken ⟨Text.quoteChars cs ++ rest, pos⟩ =
      string broken ⟨Text.quoteChars cs ++ rest, pos⟩ '"'
        (cs.flatMap Text.quoteChar ++ '"' :: rest) := by
    rw [Text.quoteChars_append]
    rfl
  exact hstring.trans (string_quoted cs rest broken pos)

theorem next_quoted (isModule broken : Bool) (cs rest : List Char) (pos : Nat) :
    next isModule broken ⟨Text.quoteChars cs ++ rest, pos⟩ =
      sound (token (.string cs false) broken ⟨Text.quoteChars cs ++ rest, pos⟩
        ⟨rest, pos + byteLength (Text.quoteChars cs)⟩) := by
  rw [← tokenAt_quoted, Text.quoteChars_append]
  rfl

theorem spellsString_quote (s : String) : SpellsString (Text.quote s).toList s.toList := by
  intro rest isModule broken pos
  rw [Text.toList_quote]
  exact ⟨_, next_quoted isModule broken s.toList rest pos, rfl, rfl, rfl, rfl⟩

theorem SpellsString.unique {spelling spelling' value value' rest rest' : List Char}
    (h : SpellsString spelling value) (h' : SpellsString spelling' value')
    (heq : spelling ++ rest = spelling' ++ rest') : value = value' ∧ rest = rest' := by
  obtain ⟨t, hnext, hkind, -, -, hrest⟩ := h rest false false 0
  obtain ⟨t', hnext', hkind', -, -, hrest'⟩ := h' rest' false false 0
  rw [heq] at hnext
  have htoken : t = t' := congrArg Lexeme.token (hnext.symm.trans hnext')
  subst htoken
  refine ⟨?_, hrest.symm.trans hrest'⟩
  cases hkind.symm.trans hkind'
  rfl

end Quoted

end ModuleBundler.Script
