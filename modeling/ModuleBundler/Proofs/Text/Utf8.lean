import Mathlib.Data.List.Basic
import Mathlib.Tactic.SplitIfs
import ModuleBundler.Text.Utf8

/-! Bytes that are read as pieces. The pieces are made of the bytes, and the pieces of a text are
its characters, so bytes are a text just if no piece is stray; and a byte below 128 is a character of
its own wherever it stands. -/
namespace ModuleBundler.Utf8

section Lead

/-- What the first byte of a character tells. -/
inductive Leads (n : Nat) : Nat → List Range → Prop
  | one : n < 0x80 → Leads n n []
  | two {bits : Nat} : n = 0xC0 + bits → 2 ≤ bits → bits < 32 → Leads n bits [.tail]
  | long : n = 0xE0 → Leads n 0 [⟨0xA0, 0xBF⟩, .tail]
  | surrogate : n = 0xED → Leads n 13 [⟨0x80, 0x9F⟩, .tail]
  | three {bits : Nat} : n = 0xE0 + bits → bits ≠ 0 → bits ≠ 13 → bits < 16 →
      Leads n bits [.tail, .tail]
  | longest : n = 0xF0 → Leads n 0 [⟨0x90, 0xBF⟩, .tail, .tail]
  | four {bits : Nat} : n = 0xF0 + bits → bits ≠ 0 → bits < 4 →
      Leads n bits [.tail, .tail, .tail]
  | last : n = 0xF4 → Leads n 4 [⟨0x80, 0x8F⟩, .tail, .tail]

variable {b : UInt8} {n bits : Nat} {ranges : List Range} {following : List UInt8}

theorem lead?_eq_some : lead? n = some (bits, ranges) ↔ Leads n bits ranges := by
  unfold lead?
  constructor
  · intro h
    split_ifs at h with h1 h2 h3 h4 h5 h6 h7 h8 h9 <;>
      obtain ⟨rfl, rfl⟩ := Prod.mk.inj (Option.some.inj h)
    · exact .one h1
    · exact .two (by omega) (by omega) (by omega)
    · exact .long h4
    · exact .surrogate h5
    · exact .three (by omega) (by omega) (by omega) (by omega)
    · exact .longest h7
    · exact .four (by omega) (by omega) (by omega)
    · exact .last h9
  · intro h
    cases h with
    | one h => rw [if_pos h]
    | two h =>
      rw [if_neg (by omega), if_neg (by omega), if_pos (by omega), h, Nat.add_sub_cancel_left]
    | long h | surrogate h | longest h | last h =>
      rw [h]
      rfl
    | three h =>
      rw [if_neg (by omega), if_neg (by omega), if_neg (by omega), if_neg (by omega),
        if_neg (by omega), if_pos (by omega), h, Nat.add_sub_cancel_left]
    | four h =>
      rw [if_neg (by omega), if_neg (by omega), if_neg (by omega), if_neg (by omega),
        if_neg (by omega), if_neg (by omega), if_neg (by omega), if_pos (by omega), h,
        Nat.add_sub_cancel_left]

def Fits : List Range → List UInt8 → Prop
  | [], [] => True
  | r :: ranges, b :: more => (r.low ≤ b.toNat ∧ b.toNat ≤ r.high) ∧ Fits ranges more
  | _, _ => False

def code (n : Nat) : List Nat :=
  if n ≤ 127 then [n]
  else if n ≤ 2047 then [n / 64 % 32 + 192, n % 64 + 128]
  else if n ≤ 65535 then [n / 4096 % 16 + 224, n / 64 % 64 + 128, n % 64 + 128]
  else [n / 262144 % 8 + 240, n / 4096 % 64 + 128, n / 64 % 64 + 128, n % 64 + 128]

theorem utf8EncodeChar_eq {c : Char} (h : c.toNat = n) :
    String.utf8EncodeChar c = (code n).map UInt8.ofNat := by
  have hn : c.val.toNat = n := h
  simp only [String.utf8EncodeChar, hn, code]
  split_ifs <;> rfl

theorem exists_code (hvalid : n < 0xD800 ∨ 0xDFFF < n ∧ n < 0x110000) :
    ∃ m following bits ranges, code n = m :: following ∧ m < 256 ∧ Leads m bits ranges ∧
      Fits ranges (following.map UInt8.ofNat) ∧ number bits (following.map UInt8.ofNat) = n := by
  unfold code
  -- of the characters of one length the first byte tells apart those with another second byte
  split_ifs with h1 h2 h3
  · exact ⟨_, _, _, _, rfl, by omega, .one (by omega), trivial, rfl⟩
  · refine ⟨_, _, n / 64, _, rfl, by omega, .two (by omega) (by omega) (by omega), ?_⟩
    simp only [List.map, Fits, number, List.foldl, UInt8.toNat_ofNat', Range.tail, and_true]
    omega
  · obtain h | h | ⟨h, h'⟩ : n / 4096 = 0 ∨ n / 4096 = 13 ∨ n / 4096 ≠ 0 ∧ n / 4096 ≠ 13 := by
      omega
    · refine ⟨_, _, 0, _, rfl, by omega, .long (by omega), ?_⟩
      simp only [List.map, Fits, number, List.foldl, UInt8.toNat_ofNat', Range.tail, and_true]
      omega
    · refine ⟨_, _, 13, _, rfl, by omega, .surrogate (by omega), ?_⟩
      simp only [List.map, Fits, number, List.foldl, UInt8.toNat_ofNat', Range.tail, and_true]
      omega
    · refine ⟨_, _, n / 4096, _, rfl, by omega, .three (by omega) h h' (by omega), ?_⟩
      simp only [List.map, Fits, number, List.foldl, UInt8.toNat_ofNat', Range.tail, and_true]
      omega
  · obtain h | h | ⟨h, h'⟩ : n / 262144 = 0 ∨ n / 262144 = 4 ∨
        n / 262144 ≠ 0 ∧ n / 262144 < 4 := by
      omega
    · refine ⟨_, _, 0, _, rfl, by omega, .longest (by omega), ?_⟩
      simp only [List.map, Fits, number, List.foldl, UInt8.toNat_ofNat', Range.tail, and_true]
      omega
    · refine ⟨_, _, 4, _, rfl, by omega, .last (by omega), ?_⟩
      simp only [List.map, Fits, number, List.foldl, UInt8.toNat_ofNat', Range.tail, and_true]
      omega
    · refine ⟨_, _, n / 262144, _, rfl, by omega, .four (by omega) h h', ?_⟩
      simp only [List.map, Fits, number, List.foldl, UInt8.toNat_ofNat', Range.tail, and_true]
      omega

theorem exists_lead (c : Char) : ∃ b following bits ranges,
    String.utf8EncodeChar c = b :: following ∧ Leads b.toNat bits ranges ∧
      Fits ranges following ∧ number bits following = c.toNat := by
  have hvalid : c.toNat.isValidChar := c.valid
  rw [Nat.isValidChar] at hvalid
  obtain ⟨m, following, bits, ranges, hcode, hm, hlead, hrest⟩ := exists_code hvalid
  refine ⟨_, _, bits, ranges, by rw [utf8EncodeChar_eq rfl, hcode, List.map_cons], ?_, hrest⟩
  rwa [UInt8.toNat_ofNat', Nat.mod_eq_of_lt hm]

theorem toNat_ofNat_of_isValidChar (h : n.isValidChar) : (Char.ofNat n).toNat = n := by
  rw [Char.ofNat, dif_pos h]
  rfl

theorem encode_number (hlead : Leads b.toNat bits ranges) (h : Fits ranges following) :
    String.utf8EncodeChar (Char.ofNat (number bits following)) = b :: following := by
  have encodes (n : Nat) (hvalid : n < 0xD800 ∨ 0xDFFF < n ∧ n < 0x110000) :=
    utf8EncodeChar_eq (toNat_ofNat_of_isValidChar hvalid)
  have hb := b.toNat_lt
  cases hlead <;> rcases following with _ | ⟨x, _ | ⟨y, _ | ⟨z, _ | _⟩⟩⟩ <;>
    simp only [Fits, Range.tail, and_true, and_false] at h <;>
    simp only [number, List.foldl] <;>
    rw [encodes _ (by omega), code] <;>
    split_ifs <;>
    simp only [List.map, List.cons.injEq, ← UInt8.toNat_inj, UInt8.toNat_ofNat', and_true,
      reduceCtorEq] <;>
    omega

end Lead

section Front

variable {b : UInt8} {c : Char} {ranges : List Range} {following : List UInt8}

theorem taken_append (h : Fits ranges following) (rest : List UInt8) :
    taken ranges (following ++ rest) = following ∧ following.length = ranges.length := by
  induction ranges generalizing following with
  | nil =>
    cases following with
    | nil => exact ⟨rfl, rfl⟩
    | cons => cases h
  | cons r more ih =>
    cases following with
    | nil => cases h
    | cons b following =>
      obtain ⟨hb, hmore⟩ := h
      obtain ⟨htaken, hlength⟩ := ih hmore
      rw [List.cons_append, taken, if_pos (by simpa [Range.has] using hb), htaken,
        List.length_cons, hlength]
      exact ⟨rfl, rfl⟩

theorem fits_taken {rest : List UInt8} (h : (taken ranges rest).length = ranges.length) :
    Fits ranges (taken ranges rest) := by
  induction ranges generalizing rest with
  | nil => trivial
  | cons r more ih =>
    cases rest with
    | nil => cases h
    | cons b rest =>
      rw [taken] at h ⊢
      split at h
      · next hb =>
        rw [if_pos hb]
        exact ⟨by simpa [Range.has] using hb, ih (by simpa using h)⟩
      · cases h

theorem taken_prefix (ranges : List Range) (rest : List UInt8) : taken ranges rest <+: rest := by
  induction ranges generalizing rest with
  | nil => exact List.nil_prefix
  | cons r more ih =>
    cases rest with
    | nil => exact List.nil_prefix
    | cons b rest =>
      rw [taken]
      split
      · exact (List.prefix_cons_inj b).2 (ih rest)
      · exact List.nil_prefix

theorem bytes_front (b : UInt8) (rest : List UInt8) :
    ∃ following, (front b rest).bytes = b :: following ∧ following <+: rest := by
  unfold front
  split
  · exact ⟨[], rfl, List.nil_prefix⟩
  · next bits ranges hlead =>
    refine ⟨taken ranges rest, ?_, taken_prefix ranges rest⟩
    dsimp only
    split
    · next hlength => exact encode_number (lead?_eq_some.1 hlead) (fits_taken hlength)
    · rfl

theorem pieces_cons (b : UInt8) (rest : List UInt8) : ∃ following more,
    rest = following ++ more ∧ (front b rest).bytes = b :: following ∧
      pieces (b :: rest) = front b rest :: pieces more := by
  have skip (following more : List UInt8) :
      piecesFrom following.length (following ++ more) = piecesFrom 0 more := by
    induction following with
    | nil => rfl
    | cons b following ih => exact ih
  obtain ⟨following, hbytes, more, rfl⟩ := bytes_front b rest
  refine ⟨following, more, rfl, hbytes, ?_⟩
  rw [pieces, piecesFrom, hbytes, List.length_cons, Nat.add_sub_cancel, skip, ← pieces]

end Front

theorem pieces_induction {P : List UInt8 → Prop} (nil : P [])
    (cons : ∀ (p : Piece) bytes, pieces (p.bytes ++ bytes) = p :: pieces bytes → P bytes →
      P (p.bytes ++ bytes)) (bytes : List UInt8) : P bytes := by
  induction hlength : bytes.length using Nat.strongRecOn generalizing bytes with
  | ind n ih =>
    cases bytes with
    | nil => exact nil
    | cons b rest =>
      obtain ⟨following, more, rfl, hbytes, hpieces⟩ := pieces_cons b rest
      have hsplit : b :: (following ++ more) = (front b (following ++ more)).bytes ++ more := by
        rw [hbytes, List.cons_append]
      rw [hsplit] at hpieces ⊢
      refine cons _ more hpieces (ih more.length ?_ more rfl)
      rw [← hlength, List.length_cons, List.length_append]
      omega

theorem bytes_pieces (bytes : List UInt8) : (pieces bytes).flatMap Piece.bytes = bytes := by
  induction bytes using pieces_induction with
  | nil => rfl
  | cons p bytes hpieces ih => rw [hpieces, List.flatMap_cons, ih]

/-- Characters are read as what they are, whatever is behind them. -/
theorem pieces_encodeChar (c : Char) (rest : List UInt8) :
    pieces (String.utf8EncodeChar c ++ rest) = .char c :: pieces rest := by
  obtain ⟨b, following, bits, ranges, hcode, hlead, hfits, hnumber⟩ := exists_lead c
  have hfront : front b (following ++ rest) = .char c := by
    obtain ⟨htaken, hlength⟩ := taken_append hfits rest
    rw [front, lead?_eq_some.2 hlead]
    simp only [htaken, hlength, if_pos, hnumber, Char.ofNat_toNat]
  obtain ⟨following', more, hrest, hbytes, hpieces⟩ := pieces_cons b (following ++ rest)
  rw [hfront, Piece.bytes, hcode] at hbytes
  obtain rfl := (List.cons.inj hbytes).2
  rw [hcode, List.cons_append, hpieces, hfront, List.append_cancel_left hrest]

theorem pieces_encode (cs : List Char) (rest : List UInt8) :
    pieces (encode cs ++ rest) = cs.map .char ++ pieces rest := by
  induction cs with
  | nil => rfl
  | cons c more ih =>
    rw [encode, List.flatMap_cons, ← encode, List.append_assoc, pieces_encodeChar, ih]
    rfl

section Text

variable {bytes more : List UInt8} {cs : List Char}

theorem pieces_of_encode (cs : List Char) : pieces (encode cs) = cs.map .char := by
  have h := pieces_encode cs []
  rwa [List.append_nil, show pieces [] = [] from rfl, List.append_nil] at h

@[simp] theorem shown_encode (cs : List Char) : shown (encode cs) = cs := by
  rw [shown, pieces_of_encode, List.map_map]
  exact List.map_id cs

theorem encode_injective : Function.Injective encode :=
  Function.LeftInverse.injective shown_encode

theorem encode_append (cs ds : List Char) : encode (cs ++ ds) = encode cs ++ encode ds :=
  List.flatMap_append

theorem chars?_eq_some : chars? bytes = some cs ↔ encode cs = bytes := by
  constructor
  · intro h
    have hchars : pieces bytes = cs.map .char := by
      rw [chars?] at h
      generalize pieces bytes = ps at h
      induction ps generalizing cs with
      | nil =>
        cases h
        rfl
      | cons p more ih =>
        rw [List.mapM_cons] at h
        cases p with
        | stray => cases h
        | char c =>
          obtain ⟨ds, hds, hcs⟩ := Option.bind_eq_some_iff.1 (show
            (more.mapM Piece.char?).bind (fun ds => some (c :: ds)) = some cs from h)
          obtain rfl := Option.some.inj hcs
          rw [ih hds, List.map_cons]
    rw [← bytes_pieces bytes, hchars, List.flatMap_map]
    rfl
  · rintro rfl
    rw [chars?, pieces_of_encode]
    induction cs with
    | nil => rfl
    | cons c more ih =>
      rw [List.map_cons, List.mapM_cons, ih]
      rfl

end Text

section Ascii

variable {b : UInt8} {bytes rest : List UInt8} {c : Char} {cs : List Char}

theorem utf8EncodeChar_of_mem (h : b ∈ String.utf8EncodeChar c) (hb : b.toNat < 128) :
    String.utf8EncodeChar c = [b] ∧ Char.ofNat b.toNat = c := by
  have hvalid : c.toNat.isValidChar := c.valid
  rw [Nat.isValidChar] at hvalid
  rw [utf8EncodeChar_eq rfl] at h ⊢
  obtain ⟨m, hm, rfl⟩ := List.mem_map.1 h
  have hself : m = c.toNat ∧ c.toNat ≤ 127 := by
    rw [UInt8.toNat_ofNat'] at hb
    unfold code at hm
    split_ifs at hm with h1 <;>
      simp only [List.mem_cons, List.not_mem_nil, or_false] at hm <;> omega
  obtain ⟨rfl, hsmall⟩ := hself
  refine ⟨by rw [code, if_pos hsmall]; rfl, ?_⟩
  rw [UInt8.toNat_ofNat', Nat.mod_eq_of_lt (by omega), Char.ofNat_toNat]

theorem encode_eq_append_cons (h : encode cs = bytes ++ b :: rest) (hb : b.toNat < 128) :
    ∃ before after, cs = before ++ Char.ofNat b.toNat :: after ∧ encode before = bytes ∧
      encode after = rest := by
  induction cs generalizing bytes with
  | nil => simp [encode] at h
  | cons c more ih =>
    rw [encode, List.flatMap_cons, ← encode] at h
    rcases List.append_eq_append_iff.1 h with ⟨middle, rfl, hmiddle⟩ | ⟨middle, hchar, hmiddle⟩
    · obtain ⟨before, after, rfl, hbefore, hafter⟩ := ih hmiddle
      exact ⟨c :: before, after, rfl, by rw [encode, List.flatMap_cons, ← encode, hbefore], hafter⟩
    cases middle with
    | nil =>
      obtain ⟨before, after, rfl, hbefore, hafter⟩ :=
        ih (show encode more = [] ++ b :: rest from hmiddle.symm)
      refine ⟨c :: before, after, rfl, ?_, hafter⟩
      rw [encode, List.flatMap_cons, ← encode, hbefore, hchar, List.append_nil, List.append_nil]
    | cons b' middle =>
      obtain ⟨rfl, rfl⟩ := List.cons.inj hmiddle
      have hmem : b ∈ String.utf8EncodeChar c := by
        rw [hchar]
        simp
      obtain ⟨hself, hc⟩ := utf8EncodeChar_of_mem hmem hb
      obtain ⟨rfl, hrest⟩ | ⟨-, hnil⟩ :=
        List.append_eq_singleton_iff.1 (hchar.symm.trans hself)
      · obtain rfl := (List.cons.inj hrest).2
        exact ⟨[], more, by rw [hc]; rfl, rfl, rfl⟩
      · cases hnil

theorem mem_encode (h : b ∈ encode cs) (hb : b.toNat < 128) : Char.ofNat b.toNat ∈ cs := by
  obtain ⟨before, after, hsplit⟩ := List.append_of_mem h
  obtain ⟨_, _, rfl, -, -⟩ := encode_eq_append_cons hsplit hb
  simp

end Ascii

end ModuleBundler.Utf8
