import ModuleBundler.Text.Utf8
import ModuleBundler.Unicode.Property

/-!
Texts between double quotes. As JSON writes them they are also string literals of the script
language: quotes, backslashes and control characters are escaped, and all else stands for itself.
For the eye there is an escape for every character that would not show.
-/
namespace ModuleBundler.Text

def hexPair (n : Nat) : List Char := [Nat.digitChar (n / 16), Nat.digitChar (n % 16)]

def quoteChar (c : Char) : List Char :=
  if c == '"' then ['\\', '"']
  else if c == '\\' then ['\\', '\\']
  else if c == '\n' then ['\\', 'n']
  else if c == '\r' then ['\\', 'r']
  else if c == '\t' then ['\\', 't']
  else if c == '\x08' then ['\\', 'b']
  else if c == '\x0c' then ['\\', 'f']
  else if c.toNat < 0x20 then ['\\', 'u', '0', '0'] ++ hexPair c.toNat
  else [c]

/-- The characters for which a letter stands behind a backslash, and their letters. -/
def letters : List (Char × Char) :=
  [('"', '"'), ('\\', '\\'), ('\n', 'n'), ('\r', 'r'), ('\t', 't'), ('\x08', 'b'),
    ('\x0c', 'f')]

/-- A letter stands for a character, its code does, or it stands for itself. -/
theorem quoteChar_cases (c : Char) :
    (∃ d, (c, d) ∈ letters ∧ quoteChar c = ['\\', d]) ∨
      (c.toNat < 0x20 ∧ quoteChar c = '\\' :: 'u' :: (['0', '0'] ++ hexPair c.toNat)) ∨
      (c ≠ '"' ∧ c ≠ '\\' ∧ ¬ c.toNat < 0x20 ∧ quoteChar c = [c]) := by
  by_cases hnamed : c = '"' ∨ c = '\\' ∨ c = '\n' ∨ c = '\r' ∨ c = '\t' ∨ c = '\x08' ∨ c = '\x0c'
  · refine .inl ?_
    rcases hnamed with rfl | rfl | rfl | rfl | rfl | rfl | rfl <;>
      exact ⟨_, by simp [letters], rfl⟩
  · obtain ⟨hquote, hslash, hnewline, hreturn, htab, hback, hfeed⟩ := by simpa using hnamed
    refine .inr ?_
    by_cases hcontrol : c.toNat < 0x20 <;>
      simp [quoteChar, hquote, hslash, hnewline, hreturn, htab, hback, hfeed, hcontrol]

def quoteChars (cs : List Char) : List Char := '"' :: (cs.flatMap quoteChar ++ ['"'])

theorem quoteChars_append (cs rest : List Char) :
    quoteChars cs ++ rest = '"' :: (cs.flatMap quoteChar ++ '"' :: rest) := by
  rw [quoteChars, List.cons_append, List.append_assoc, List.singleton_append]

theorem length_le_flatMap_quoteChar (cs : List Char) :
    cs.length ≤ (cs.flatMap quoteChar).length := by
  induction cs with
  | nil => exact Nat.le_refl 0
  | cons c more ih =>
    have hpos : 0 < (quoteChar c).length := by
      obtain ⟨d, -, h⟩ | ⟨-, h⟩ | ⟨-, -, -, h⟩ := quoteChar_cases c <;> simp [h]
    rw [List.flatMap_cons, List.length_append, List.length_cons]
    omega

def quote (s : String) : String := String.ofList (quoteChars s.toList)

theorem toList_quote (s : String) : (quote s).toList = quoteChars s.toList := String.toList_ofList

section Visible

def numberEscape (c : Char) : List Char :=
  '\\' :: 'u' :: '\x7b' :: (Nat.toDigits 16 c.toNat ++ ['\x7d'])

/-- A character between quotes. Quotes of the kinds in `quotes` get a backslash. -/
def visibleChar (quotes : List Char) (c : Char) : List Char :=
  if c == '\x00' then ['\\', '0']
  else if c == '\t' then ['\\', 't']
  else if c == '\r' then ['\\', 'r']
  else if c == '\n' then ['\\', 'n']
  else if c == '\\' || quotes.contains c then ['\\', c]
  else if Unicode.isVisible c then [c]
  else numberEscape c

/-- What bytes begin with, between quotes. A byte that belongs to no character is told by its
number. -/
def visiblePiece : Utf8.Piece → List Char
  | .char c => visibleChar ['"', '\''] c
  | .stray bytes =>
    bytes.flatMap fun b => '\\' :: 'x' :: (hexPair b.toNat).map Char.toUpper

def enclosed (cs : List Char) : String := String.ofList ('"' :: (cs ++ ['"']))

def visible (s : String) : String := enclosed (s.toList.flatMap (visibleChar ['"']))

def visiblePath (bytes : List UInt8) : String :=
  enclosed ((Utf8.pieces bytes).flatMap visiblePiece)

end Visible

end ModuleBundler.Text
