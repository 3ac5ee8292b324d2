/-!
Stretches of a text, counted in the bytes of its UTF-8 form.
-/
namespace ModuleBundler.Script

/-- The bytes from `start` up to, and without, `stop`. -/
structure Span where
  start : Nat
  stop : Nat
deriving DecidableEq

/-- The same stretch behind a number of other bytes. -/
def Span.moved (n : Nat) (s : Span) : Span := ⟨n + s.start, n + s.stop⟩

def byteLength (text : List Char) : Nat :=
  text.foldl (fun n c => n + c.utf8Size) 0

@[simp] theorem byteLength_nil : byteLength [] = 0 := rfl

theorem foldl_utf8Size (text : List Char) (n : Nat) :
    text.foldl (fun n c => n + c.utf8Size) n = n + byteLength text := by
  induction text generalizing n with
  | nil => rfl
  | cons c more ih =>
    rw [byteLength, List.foldl_cons, List.foldl_cons, ih, ih, Nat.zero_add, Nat.add_assoc]

@[simp] theorem byteLength_cons (c : Char) (text : List Char) :
    byteLength (c :: text) = c.utf8Size + byteLength text := by
  rw [byteLength, List.foldl_cons, foldl_utf8Size, Nat.zero_add]

@[simp] theorem byteLength_append (a b : List Char) :
    byteLength (a ++ b) = byteLength a + byteLength b := by
  rw [byteLength, List.foldl_append, foldl_utf8Size b]
  rfl

theorem byteLength_pos {text : List Char} (h : text ≠ []) : 0 < byteLength text := by
  obtain ⟨c, more, rfl⟩ := List.exists_cons_of_ne_nil h
  rw [byteLength_cons]
  exact Nat.lt_of_lt_of_le c.utf8Size_pos (Nat.le_add_right ..)

end ModuleBundler.Script
