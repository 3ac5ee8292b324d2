/-!
The bytes of a text, and the text that bytes are read as. Bytes that are no text can still be shown:
where no character can be read, the longest start of one counts as a single unknown character.
-/
namespace ModuleBundler.Utf8

def encode (cs : List Char) : List UInt8 := cs.flatMap String.utf8EncodeChar

/-- What bytes begin with: a character, or bytes with which none goes on. -/
inductive Piece where
  | char (c : Char)
  | stray (bytes : List UInt8)

namespace Piece

def bytes : Piece → List UInt8
  | char c => String.utf8EncodeChar c
  | stray bs => bs

def unknown : Char := '\uFFFD'

def shown : Piece → Char
  | char c => c
  | stray _ => unknown

def char? : Piece → Option Char
  | char c => some c
  | stray _ => none

end Piece

/-- The least and the greatest byte that may stand at a place. -/
structure Range where
  low : Nat
  high : Nat

namespace Range

def has (r : Range) (b : UInt8) : Bool := r.low ≤ b.toNat && b.toNat ≤ r.high

def tail : Range := ⟨0x80, 0xBF⟩

end Range

/-- What a first byte tells: its bits of the character's number, and which bytes follow. Longer
forms than needed, surrogates and numbers beyond the last character are ruled out by the second
byte. -/
def lead? (n : Nat) : Option (Nat × List Range) :=
  if n < 0x80 then some (n, [])
  else if n < 0xC2 then none
  else if n < 0xE0 then some (n - 0xC0, [.tail])
  else if n = 0xE0 then some (0, [⟨0xA0, 0xBF⟩, .tail])
  else if n = 0xED then some (13, [⟨0x80, 0x9F⟩, .tail])
  else if n < 0xF0 then some (n - 0xE0, [.tail, .tail])
  else if n = 0xF0 then some (0, [⟨0x90, 0xBF⟩, .tail, .tail])
  else if n < 0xF4 then some (n - 0xF0, [.tail, .tail, .tail])
  else if n = 0xF4 then some (4, [⟨0x80, 0x8F⟩, .tail, .tail])
  else none

/-- The bytes at the front that are as they have to be. -/
def taken : List Range → List UInt8 → List UInt8
  | r :: more, b :: rest => if r.has b then b :: taken more rest else []
  | _, _ => []

def number (bits : Nat) (following : List UInt8) : Nat :=
  following.foldl (fun n b => n * 64 + (b.toNat - 0x80)) bits

def front (b : UInt8) (rest : List UInt8) : Piece :=
  match lead? b.toNat with
  | none => .stray [b]
  | some (bits, ranges) =>
    let following := taken ranges rest
    if following.length = ranges.length then .char (Char.ofNat (number bits following))
    else .stray (b :: following)

/-- The pieces of the bytes behind the first `skip`. -/
def piecesFrom : Nat → List UInt8 → List Piece
  | _, [] => []
  | skip + 1, _ :: rest => piecesFrom skip rest
  | 0, b :: rest => front b rest :: piecesFrom ((front b rest).bytes.length - 1) rest

def pieces (bytes : List UInt8) : List Piece := piecesFrom 0 bytes

/-- The text that is shown for bytes. -/
def shown (bytes : List UInt8) : List Char := (pieces bytes).map Piece.shown

/-- The text that bytes are, if they are one. -/
def chars? (bytes : List UInt8) : Option (List Char) := (pieces bytes).mapM Piece.char?

end ModuleBundler.Utf8
