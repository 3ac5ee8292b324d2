import ModuleBundler.Proofs.Script.Extent

/-! String literals, templates and regular expressions, which end at signs of their own. What is
read of them depends on nothing that stands behind these signs. -/
namespace ModuleBundler.Script

open Lexer

def Closes (z : Char) : Prop := IsQuote z ∨ z = '\x60' ∨ z = '$'

instance : DecidablePred InCodePoint := fun c =>
  inferInstanceAs (Decidable (isHexDigit c = true ∨ c = '\x7b' ∨ c = '\x7d'))

section Closing

variable {z : Char} {m rest spelling mid : List Char}

theorem Closes.facts (hz : Closes z) : ¬ InCodePoint z ∧ isHexDigit z = false ∧
    isOctalDigit z = false ∧ z.isDigit = false ∧ z ≠ '\\' ∧ z ≠ 'u' ∧ z ≠ '\n' ∧ z ≠ '\x7b' := by
  rcases hz with (rfl | rfl) | rfl | rfl <;> decide

theorem exists_left (h : m ++ z :: rest = spelling ++ mid) (hz : z ∉ spelling) :
    ∃ left, m = spelling ++ left ∧ mid = left ++ z :: rest := by
  rcases List.append_eq_append_iff.1 h with ⟨more, hspelling, hmid⟩ | ⟨left, rfl, rfl⟩
  · cases more with
    | nil => exact ⟨[], by simpa using hspelling.symm, by simpa using hmid.symm⟩
    | cons c more =>
      obtain ⟨rfl, -⟩ := List.cons.inj hmid
      exact absurd (by simp [hspelling]) hz
  · exact ⟨left, rfl, rfl⟩

theorem hexQuad?_before (hz : Closes z) (m : List Char) :
    (∀ rest, hexQuad? (m ++ z :: rest) = none) ∨
      ∃ n left, ∀ rest, hexQuad? (m ++ z :: rest) = some (n, left ++ z :: rest) := by
  by_cases h : ∃ rest n mid, hexQuad? (m ++ z :: rest) = some (n, mid)
  · obtain ⟨rest, n, mid, h⟩ := h
    obtain ⟨spelling, heq, -, hdigits, hread⟩ := hexQuad?_spelling h
    obtain ⟨left, rfl, -⟩ := exists_left heq fun hmem =>
      absurd (hdigits z hmem) (by simp [hz.facts])
    exact .inr ⟨n, left, fun rest => by rw [List.append_assoc, hread]⟩
  · refine .inl fun rest => ?_
    cases hquad : hexQuad? (m ++ z :: rest) with
    | none => rfl
    | some p => exact absurd ⟨rest, p.1, p.2, hquad⟩ h

theorem codePoint?_before (hz : Closes z) (m : List Char) :
    (∀ rest pos, codePoint? (m ++ z :: rest) pos = none) ∨
      ∃ n left, ∀ rest pos, ∃ stop,
        codePoint? (m ++ z :: rest) pos = some (n, ⟨left ++ z :: rest, stop⟩) := by
  by_cases h : ∃ rest pos n mid stop, codePoint? (m ++ z :: rest) pos = some (n, ⟨mid, stop⟩)
  · obtain ⟨rest, pos, n, mid, stop, h⟩ := h
    obtain ⟨spelling, heq, hin, hread⟩ := codePoint?_spelling h
    obtain ⟨left, rfl, -⟩ := exists_left heq fun hmem => hz.facts.1 (hin z hmem)
    exact .inr ⟨n, left, fun rest pos => ⟨_, by rw [List.append_assoc, hread]⟩⟩
  · refine .inl fun rest pos => ?_
    cases hcode : codePoint? (m ++ z :: rest) pos with
    | none => rfl
    | some p => exact absurd ⟨rest, pos, p.1, p.2.rest, p.2.pos, hcode⟩ h

theorem head?_before (m rest rest' : List Char) :
    (m ++ z :: rest).head? = (m ++ z :: rest').head? := by
  cases m <;> rfl

end Closing

section Escapes

variable {z d : Char}

/-- What is read before a sign is the same whatever stands behind it. -/
def SameBefore (read : List Char → Nat → Escape × Cursor) (z : Char) (m : List Char) : Prop :=
  ∀ rest rest' pos pos', ∃ e left stop stop',
    read (m ++ z :: rest) pos = (e, ⟨left ++ z :: rest, stop⟩) ∧
    read (m ++ z :: rest') pos' = (e, ⟨left ++ z :: rest', stop'⟩)

theorem unicodeEscape_before (hz : Closes z) (m : List Char) : SameBefore unicodeEscape z m := by
  intro rest rest' pos pos'
  obtain ⟨-, -, -, -, hslash, hu, -, -⟩ := hz.facts
  rcases codePoint?_before hz m with hnone | ⟨n, left, hcode⟩
  · exact ⟨.malformed, m, pos, pos', by simp [unicodeEscape, hnone], by simp [unicodeEscape, hnone]⟩
  obtain ⟨stop, h⟩ := hcode rest pos
  obtain ⟨stop', h'⟩ := hcode rest' pos'
  unfold unicodeEscape
  simp only [h, h', head?_before m rest' rest]
  split
  · rcases left with _ | ⟨a, _ | ⟨b, left⟩⟩
    · exact ⟨.value [.ofNat n], [], stop, stop', by simp [hslash], by simp [hslash]⟩
    · exact ⟨.value [.ofNat n], [a], stop, stop', by simp [hu], by simp [hu]⟩
    by_cases hpair : a = '\\' ∧ b = 'u'
    · obtain ⟨rfl, rfl⟩ := hpair
      rcases hexQuad?_before hz left with hnone | ⟨low, left', hlow⟩
      · exact ⟨.value [.ofNat n], '\\' :: 'u' :: left, stop, stop', by simp [hnone],
          by simp [hnone]⟩
      · by_cases hislow : isLowSurrogate low = true
        · simp only [List.cons_append, hlow, hislow]
          exact ⟨_, left', _, _, rfl, rfl⟩
        · exact ⟨.value [.ofNat n], '\\' :: 'u' :: left, stop, stop', by simp [hlow, hislow],
            by simp [hlow, hislow]⟩
    · have hother (more : List Char) : ∀ more', a :: b :: more ≠ '\\' :: 'u' :: more' := by
        rintro more' ⟨⟩
        exact hpair ⟨rfl, rfl⟩
      exact ⟨.value [.ofNat n], a :: b :: left, stop, stop', by simp [hother], by simp [hother]⟩
  · exact ⟨_, left, stop, stop', rfl, rfl⟩

theorem octalEscape_before (hz : Closes z) (first : Char) (m : List Char) :
    SameBefore (octalEscape first) z m := by
  intro rest rest' pos pos'
  obtain ⟨-, -, hoctal, -⟩ := hz.facts
  unfold octalEscape
  rcases m with _ | ⟨c, m⟩
  · exact ⟨.value [.ofNat (first.toNat - 48)], [], pos + 1, pos' + 1, by simp [hoctal],
      by simp [hoctal]⟩
  by_cases hc : isOctalDigit c = true
  · rcases m with _ | ⟨d, m⟩
    · simp only [List.cons_append, List.nil_append, hc, hoctal]
      exact ⟨_, [], _, _, rfl, rfl⟩
    · simp only [List.cons_append, hc, if_true]
      split
      · exact ⟨_, m, _, _, rfl, rfl⟩
      · exact ⟨_, d :: m, _, _, rfl, rfl⟩
  · exact ⟨.value [.ofNat (first.toNat - 48)], c :: m, pos + 1, pos' + 1, by simp [hc],
      by simp [hc]⟩

theorem readEscape_before (hz : Closes z) (inTemplate : Bool) (d : Char) (m : List Char) :
    SameBefore (readEscape inTemplate d) z m := by
  intro rest rest' pos pos'
  obtain ⟨-, hhex, -, hdigit, hslash, hu, hline, -⟩ := hz.facts
  unfold readEscape
  split
  · exact ⟨_, m, _, _, rfl, rfl⟩
  · exact ⟨_, m, _, _, rfl, rfl⟩
  · exact ⟨_, m, _, _, rfl, rfl⟩
  · exact ⟨_, m, _, _, rfl, rfl⟩
  · exact ⟨_, m, _, _, rfl, rfl⟩
  · exact ⟨_, m, _, _, rfl, rfl⟩
  · -- a line break that two signs make is passed as one
    rcases m with _ | ⟨c, m⟩
    · exact ⟨.value [], [], _, _, by simp [hline]; rfl, by simp [hline]; rfl⟩
    by_cases hc : c = '\n'
    · subst hc
      exact ⟨_, m, _, _, rfl, rfl⟩
    · exact ⟨.value [], c :: m, _, _, by simp [hc]; rfl, by simp [hc]; rfl⟩
  · rcases m with _ | ⟨a, _ | ⟨b, m⟩⟩
    · exact ⟨.malformed, [], _, _, by cases rest <;> simp [hhex] <;> rfl,
        by cases rest' <;> simp [hhex] <;> rfl⟩
    · exact ⟨.malformed, [a], _, _, by simp [hhex]; rfl, by simp [hhex]; rfl⟩
    · simp only [List.cons_append]
      split
      · exact ⟨_, m, _, _, rfl, rfl⟩
      · exact ⟨_, a :: b :: m, _, _, rfl, rfl⟩
  · exact unicodeEscape_before hz m rest rest' (pos + 1) (pos' + 1)
  · rw [head?_before m rest' rest]
    repeat' split
    · exact ⟨_, m, _, _, rfl, rfl⟩
    · exact ⟨_, m, _, _, rfl, rfl⟩
    · exact ⟨_, m, _, _, rfl, rfl⟩
    · exact octalEscape_before hz d m rest rest' pos pos'
    · exact ⟨_, m, _, _, rfl, rfl⟩
    · exact ⟨_, m, _, _, rfl, rfl⟩

def Passes (text : List Char) (pos : Nat) (at_ : Cursor) : Prop :=
  ∃ spelling, text = spelling ++ at_.rest ∧ at_.pos = pos + byteLength spelling

variable {text more : List Char} {pos n : Nat} {at_ mid : Cursor} {c : Char}

theorem passes_here (text : List Char) (pos : Nat) : Passes text pos ⟨text, pos⟩ := ⟨[], rfl, rfl⟩

theorem Passes.trans (h : Passes text pos mid) (h' : Passes mid.rest mid.pos at_) :
    Passes text pos at_ := by
  obtain ⟨spelling, rfl, hpos⟩ := h
  obtain ⟨spelling', hrest, hpos'⟩ := h'
  refine ⟨spelling ++ spelling', by rw [hrest, List.append_assoc], ?_⟩
  rw [hpos', hpos, byteLength_append, Nat.add_assoc]

theorem passes_codePoint (h : codePoint? text pos = some (n, at_)) : Passes text pos at_ := by
  obtain ⟨rest, stop⟩ := at_
  obtain ⟨spelling, rfl, -, hread⟩ := codePoint?_spelling h
  rw [hread] at h
  cases h
  exact ⟨spelling, rfl, rfl⟩

theorem passes_hexQuad (h : hexQuad? text = some (n, more)) (pos : Nat) :
    Passes text pos ⟨more, pos + 4⟩ := by
  obtain ⟨spelling, rfl, hlength, -⟩ := hexQuad?_spelling h
  exact ⟨spelling, rfl, by rw [hlength]⟩

theorem passes_unicodeEscape (text : List Char) (pos : Nat) :
    Passes text pos (unicodeEscape text pos).2 := by
  unfold unicodeEscape
  cases hcode : codePoint? text pos with
  | none => exact passes_here text pos
  | some p =>
    obtain ⟨n, mid⟩ := p
    have hmid := passes_codePoint hcode
    dsimp only
    split
    · split
      · next more hmore =>
        split
        · next low rest hlow =>
          split
          · have hpair : Passes mid.rest mid.pos ⟨more, mid.pos + 2⟩ := ⟨['\\', 'u'], hmore, rfl⟩
            exact hmid.trans (hpair.trans (passes_hexQuad hlow _))
          · exact hmid
        · exact hmid
      · exact hmid
    · exact hmid

theorem passes_octalEscape (first : Char) (text : List Char) (pos : Nat) :
    Passes text (pos + 1) (octalEscape first text pos).2 := by
  have hsize (d : Char) (hd : isOctalDigit d = true) : d.utf8Size = 1 :=
    Number.digital_isOctalDigit.size d hd
  unfold octalEscape
  split
  · next d rest =>
    split
    · next hd =>
      split
      · next e rest =>
        split
        · next he =>
          have he := (Bool.and_eq_true_iff.1 he).1
          exact ⟨[d, e], rfl, by simp [hsize d hd, hsize e he]⟩
        · exact ⟨[d], rfl, by simp [hsize d hd]⟩
      · exact ⟨[d], rfl, by simp [hsize d hd]⟩
    · exact passes_here _ _
  · exact passes_here _ _

theorem passes_readEscape (inTemplate : Bool) (d : Char) (text : List Char) (pos : Nat) :
    Passes text (pos + d.utf8Size) (readEscape inTemplate d text pos).2 := by
  have hhere := passes_here text (pos + d.utf8Size)
  unfold readEscape
  split
  · exact hhere
  · exact hhere
  · exact hhere
  · exact hhere
  · exact hhere
  · exact hhere
  · split
    · exact ⟨['\n'], rfl, rfl⟩
    · exact hhere
  · split
    · next a b more =>
      split
      · next hdigits =>
        have hsize (c : Char) (hc : isHexDigit c = true) : c.utf8Size = 1 :=
          Number.digital_isHexDigit.size c hc
        obtain ⟨ha, hb⟩ := Bool.and_eq_true_iff.1 hdigits
        exact ⟨[a, b], rfl, by simp [hsize a ha, hsize b hb]; rfl⟩
      · exact hhere
    · exact hhere
  · exact passes_unicodeEscape text _
  · repeat' split
    · exact hhere
    · exact hhere
    · exact hhere
    · next hoctal =>
      rw [Number.digital_isOctalDigit.size d hoctal]
      exact passes_octalEscape d text pos
    · exact hhere
    · exact hhere

theorem readEscape_again (hz : Closes z) {inTemplate : Bool} {body rest : List Char} {e : Escape}
    {stop : Nat} (h : readEscape inTemplate d text pos = (e, ⟨body ++ z :: rest, stop⟩)) :
    ∃ spelling, text = spelling ++ (body ++ z :: rest) ∧
      ∀ rest' pos, readEscape inTemplate d (spelling ++ (body ++ z :: rest')) pos =
        (e, ⟨body ++ z :: rest', pos + d.utf8Size + byteLength spelling⟩) := by
  obtain ⟨spelling, htext, -⟩ := passes_readEscape inTemplate d text pos
  rw [h] at htext
  refine ⟨spelling, htext, fun rest' pos' => ?_⟩
  obtain ⟨e', left, stop₁, stop', hread, hread'⟩ :=
    readEscape_before hz inTemplate d (spelling ++ body) rest rest' pos pos'
  rw [List.append_assoc, ← htext, h] at hread
  simp only [Prod.mk.injEq, Cursor.mk.injEq] at hread
  obtain ⟨rfl, hleft, -⟩ := hread
  obtain rfl := List.append_cancel_right hleft
  obtain ⟨spelling', htext', hstop⟩ :=
    passes_readEscape inTemplate d (spelling ++ body ++ z :: rest') pos'
  rw [hread', List.append_assoc] at htext'
  obtain rfl := List.append_cancel_right htext'
  rw [hread'] at hstop
  rw [← List.append_assoc, hread', show stop' = _ from hstop]

theorem byteLength_escaped (pos : Nat) (d : Char) (spelling body : List Char) :
    pos + byteLength ('\\' :: d :: (spelling ++ body)) =
      pos + 1 + d.utf8Size + byteLength spelling + byteLength body := by
  have hsize : Char.utf8Size '\\' = 1 := rfl
  simp only [byteLength_cons, byteLength_append]
  omega

end Escapes

section Strings

def Escape.units : Escape → List TextUnit
  | .value units => units.reverse
  | .malformed => []

def Escape.isSound : Escape → Bool
  | .value _ => true
  | .malformed => false

variable {q : Char} {bound text rest : List Char} {pos stop : Nat} {units units' : List TextUnit}
  {ok ok' : Bool}

theorem readString_quote (q b : Char) (bound text : List Char) (pos : Nat) :
    readString q (b :: bound) ⟨q :: text, pos⟩ units ok =
      ⟨units, ⟨text, pos + q.utf8Size⟩, true, ok⟩ := by
  simp [readString]

theorem readString_char {c : Char} (hc : c ≠ q) (hn : c ≠ '\n') (hr : c ≠ '\r') (hs : c ≠ '\\')
    (b : Char) (bound rest : List Char) (pos : Nat) :
    readString q (b :: bound) ⟨c :: rest, pos⟩ units ok =
      readString q bound ⟨rest, pos + c.utf8Size⟩ (.char c :: units) ok := by
  simp [readString, hc, hn, hr, hs]

theorem readString_after (hq : IsQuote q) {d : Char} {e : Escape} {next : Cursor}
    (h : readEscape false d text (pos + 1) = (e, next)) (b : Char) (bound : List Char) :
    readString q (b :: bound) ⟨'\\' :: d :: text, pos⟩ units ok =
      readString q bound next (e.units ++ units) (ok && e.isSound) := by
  have hsize : Char.utf8Size '\\' = 1 := rfl
  rcases hq with rfl | rfl <;> cases e <;>
    simp [readString, hsize, h, Escape.units, Escape.isSound]

theorem readString_closed (hq : IsQuote q)
    (h : readString q bound ⟨text, pos⟩ units ok = ⟨units', ⟨rest, stop⟩, true, ok'⟩) :
    ∃ body, text = body ++ q :: rest ∧ ∀ (bound rest' : List Char) pos,
      body.length < bound.length → readString q bound ⟨body ++ q :: rest', pos⟩ units ok =
        ⟨units', ⟨rest', pos + byteLength (body ++ [q])⟩, true, ok'⟩ := by
  induction bound generalizing text pos units ok with
  | nil => cases h
  | cons b bound ih =>
    rcases text with _ | ⟨c, text⟩
    · cases h
    by_cases hc : c = q
    · subst hc
      rw [readString_quote] at h
      cases h
      refine ⟨[], rfl, fun bound' rest' pos hbound' => ?_⟩
      obtain ⟨b', bound', rfl⟩ := List.exists_cons_of_length_pos hbound'
      rw [List.nil_append, readString_quote]
      simp
    by_cases hline : c = '\n' ∨ c = '\r'
    · rcases hline with rfl | rfl <;> simp [readString, hc] at h
    obtain ⟨hn, hr⟩ := not_or.1 hline
    by_cases hs : c = '\\'
    · subst hs
      rcases text with _ | ⟨d, text⟩
      · simp [readString, hc] at h
      rcases hescape : readEscape false d text (pos + 1) with ⟨e, ⟨mid, stop₁⟩⟩
      rw [readString_after hq hescape] at h
      obtain ⟨body, rfl, hread⟩ := ih h
      obtain ⟨spelling, rfl, hagain⟩ := readEscape_again (.inl hq) hescape
      refine ⟨'\\' :: d :: (spelling ++ body), by simp, fun bound' rest' pos hbound' => ?_⟩
      obtain ⟨b', bound', rfl⟩ : ∃ b' more, bound' = b' :: more :=
        List.exists_cons_of_length_pos (Nat.zero_lt_of_lt hbound')
      simp only [List.length_cons, List.length_append] at hbound'
      simp only [List.cons_append, List.append_assoc, byteLength_escaped]
      rw [readString_after hq (hagain rest' (pos + 1)), hread bound' rest' _ (by omega)]
    · rw [readString_char hc hn hr hs] at h
      obtain ⟨body, rfl, hread⟩ := ih h
      refine ⟨c :: body, rfl, fun bound' rest' pos hbound' => ?_⟩
      obtain ⟨b', bound', rfl⟩ : ∃ b' more, bound' = b' :: more :=
        List.exists_cons_of_length_pos (Nat.zero_lt_of_lt hbound')
      rw [List.cons_append, readString_char hc hn hr hs,
        hread bound' rest' _ (Nat.lt_of_succ_lt_succ hbound'), List.cons_append, byteLength_cons,
        Nat.add_assoc]

end Strings

section Pieces

variable {bound text rest : List Char} {pos stop : Nat} {ok ok' : Bool} {ending : PieceEnd}

def PieceEnd.sign : PieceEnd → List Char
  | .closed => ['\x60']
  | .substitution => ['$', '\x7b']
  | .unterminated => []

theorem readPiece_plain {c : Char} (hclose : c ≠ '\x60') (hs : c ≠ '\\')
    (hopen : ¬ (c = '$' ∧ text.head? = some '\x7b')) (b : Char) (bound : List Char) (pos : Nat) :
    readPiece (b :: bound) ⟨c :: text, pos⟩ ok = readPiece bound ⟨text, pos + c.utf8Size⟩ ok := by
  rw [readPiece.eq_def]
  dsimp only
  split
  · next heq => cases heq
  · next heq => exact absurd (List.cons.inj heq).1 hclose
  · next heq =>
    obtain ⟨hc, rfl⟩ := List.cons.inj heq
    exact absurd ⟨hc, rfl⟩ hopen
  · next heq => exact absurd (List.cons.inj heq).1 hs
  · next heq =>
    cases heq
    rfl

theorem readPiece_after {d : Char} {e : Escape} {next : Cursor}
    (h : readEscape true d text (pos + 1) = (e, next)) (b : Char) (bound : List Char) :
    readPiece (b :: bound) ⟨'\\' :: d :: text, pos⟩ ok =
      readPiece bound next (ok && e.isSound) := by
  cases e <;> simp [readPiece, h, Escape.isSound]

theorem readPiece_closed (h : readPiece bound ⟨text, pos⟩ ok = (ending, ⟨rest, stop⟩, ok'))
    (hend : ending ≠ .unterminated) :
    ∃ body, text = body ++ (ending.sign ++ rest) ∧ ∀ (bound rest' : List Char) pos,
      body.length < bound.length → readPiece bound ⟨body ++ (ending.sign ++ rest'), pos⟩ ok =
        (ending, ⟨rest', pos + byteLength (body ++ ending.sign)⟩, ok') := by
  induction bound generalizing text pos ok with
  | nil =>
    cases h
    exact absurd rfl hend
  | cons b bound ih =>
    rcases text with _ | ⟨c, text⟩
    · cases h
      exact absurd rfl hend
    by_cases hclose : c = '\x60'
    · subst hclose
      cases h
      refine ⟨[], rfl, fun bound' rest' pos hbound' => ?_⟩
      obtain ⟨b', bound', rfl⟩ := List.exists_cons_of_length_pos hbound'
      rfl
    by_cases hopen : c = '$' ∧ text.head? = some '\x7b'
    · obtain ⟨rfl, hhead⟩ := hopen
      obtain ⟨more, rfl⟩ : ∃ more, text = '\x7b' :: more := List.head?_eq_some_iff.1 hhead
      cases h
      refine ⟨[], rfl, fun bound' rest' pos hbound' => ?_⟩
      obtain ⟨b', bound', rfl⟩ := List.exists_cons_of_length_pos hbound'
      rfl
    have hsign : ∃ z tail, ending.sign = z :: tail ∧ Closes z := by
      cases ending with
      | closed => exact ⟨_, _, rfl, .inr (.inl rfl)⟩
      | substitution => exact ⟨_, _, rfl, .inr (.inr rfl)⟩
      | unterminated => exact absurd rfl hend
    obtain ⟨z, tail, hsign, hz⟩ := hsign
    by_cases hs : c = '\\'
    · subst hs
      rcases text with _ | ⟨d, text⟩
      · cases bound <;> cases h <;> exact absurd rfl hend
      rcases hescape : readEscape true d text (pos + 1) with ⟨e, ⟨mid, stop₁⟩⟩
      rw [readPiece_after hescape] at h
      obtain ⟨body, rfl, hread⟩ := ih h
      rw [hsign, List.cons_append] at hescape
      obtain ⟨spelling, rfl, hagain⟩ := readEscape_again hz hescape
      refine ⟨'\\' :: d :: (spelling ++ body), by simp [hsign], fun bound' rest' pos hbound' => ?_⟩
      obtain ⟨b', bound', rfl⟩ : ∃ b' more, bound' = b' :: more :=
        List.exists_cons_of_length_pos (Nat.zero_lt_of_lt hbound')
      simp only [List.length_cons, List.length_append] at hbound'
      have hafter := hagain (tail ++ rest') (pos + 1)
      rw [← List.cons_append, ← hsign] at hafter
      simp only [List.cons_append, List.append_assoc, byteLength_escaped]
      rw [readPiece_after hafter, hread bound' rest' _ (by omega)]
    · rw [readPiece_plain hclose hs hopen] at h
      obtain ⟨body, rfl, hread⟩ := ih h
      refine ⟨c :: body, rfl, fun bound' rest' pos hbound' => ?_⟩
      obtain ⟨b', bound', rfl⟩ : ∃ b' more, bound' = b' :: more :=
        List.exists_cons_of_length_pos (Nat.zero_lt_of_lt hbound')
      have hopen' : ¬ (c = '$' ∧ (body ++ (ending.sign ++ rest')).head? = some '\x7b') := by
        rw [hsign, List.cons_append, head?_before body _ (tail ++ rest), ← List.cons_append,
          ← hsign]
        exact hopen
      rw [List.cons_append, readPiece_plain hclose hs hopen',
        hread bound' rest' _ (Nat.lt_of_succ_lt_succ hbound'), List.cons_append, byteLength_cons,
        Nat.add_assoc]

end Pieces

section Regexps

variable {text rest : List Char} {pos stop : Nat} {inClass escaped : Bool}

/-- What a sign makes of the state in which a regular expression is read: whether a class is open
and whether the sign counts for itself. The last slash leaves no state. -/
def regexpStep (inClass escaped : Bool) (c : Char) : Option (Bool × Bool) :=
  if escaped then some (inClass, false)
  else if c == '/' && !inClass then none
  else if c == '[' then some (true, false)
  else if c == '\\' then some (inClass, true)
  else if c == ']' then some (false, false)
  else some (inClass, false)

theorem regexpBody?_cons (inClass escaped : Bool) (c : Char) (rest : List Char) (pos : Nat) :
    regexpBody? inClass escaped (c :: rest) pos =
      if isLineBreak c then none
      else match regexpStep inClass escaped c with
        | some (inClass, escaped) => regexpBody? inClass escaped rest (pos + c.utf8Size)
        | none => some ⟨rest, pos + c.utf8Size⟩ := by
  rw [regexpBody?, regexpStep]
  split
  · rfl
  · repeat' split
    all_goals simp_all

theorem regexpBody?_spelling (h : regexpBody? inClass escaped text pos = some ⟨rest, stop⟩) :
    ∃ spelling, text = spelling ++ rest ∧ ∀ rest' pos,
      regexpBody? inClass escaped (spelling ++ rest') pos =
        some ⟨rest', pos + byteLength spelling⟩ := by
  induction text generalizing inClass escaped pos with
  | nil => cases h
  | cons c text ih =>
    rw [regexpBody?_cons] at h
    split at h
    · cases h
    · next hline =>
      rcases hstep : regexpStep inClass escaped c with _ | ⟨inClass', escaped'⟩
      · rw [hstep] at h
        cases h
        exact ⟨[c], rfl, fun rest' pos => by simp [regexpBody?_cons, hline, hstep]⟩
      · rw [hstep] at h
        obtain ⟨spelling, rfl, hread⟩ := ih h
        refine ⟨c :: spelling, rfl, fun rest' pos => ?_⟩
        rw [List.cons_append, regexpBody?_cons, if_neg hline, hstep, byteLength_cons,
          ← Nat.add_assoc]
        exact hread rest' _

end Regexps

end ModuleBundler.Script
