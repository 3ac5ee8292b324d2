import ModuleBundler.Proofs.Script.Literal

/-! Blanks, comments and tokens are read again in front of each text that begins alike. -/
namespace ModuleBundler.Script

open Lexer

instance : DecidablePred BeginsWord := fun c =>
  inferInstanceAs (Decidable (isNameStart c = true ∨ c = '\\'))

instance : DecidablePred IsQuote := fun c =>
  inferInstanceAs (Decidable (c = '"' ∨ c = '\x27'))

section Signs

variable {c d : Char} {rest rest' : List Char} {p : Char → Bool} {isModule broken : Bool}

/-- A class of signs that neither words nor strings begin with. -/
structure Inner (p : Char → Bool) : Prop where
  word : ∀ c, BeginsWord c → p c = false
  quote : ∀ c, IsQuote c → p c = false

theorem Alike.eq_of_head {α : Type*} (f : List Char → α) (hp : Inner p) (h : Alike rest rest')
    (hyes : ∀ b rest rest', p b = true → Alike rest rest' → f (b :: rest') = f (b :: rest))
    (hno : ∀ b rest, p b = false → f (b :: rest) = f []) : f rest' = f rest := by
  cases h with
  | nil => rfl
  | @same b rest rest' h =>
    cases hb : p b with
    | true => exact hyes b rest rest' hb h
    | false => rw [hno b rest hb, hno b rest' hb]
  | @word b hb rest rest' => rw [hno _ _ (hp.word b hb), hno _ _ (hp.word '_' (.inl rfl))]
  | @quote b hb rest rest' => rw [hno _ _ (hp.quote b hb), hno _ _ (hp.quote '"' (.inl rfl))]

def markSigns : List Char :=
  ['(', ')', '\x7b', '\x7d', '[', ']', ';', ',', ':', '~', '@', '>', '.', '?', '=', '!', '+', '-',
    '*', '/', '%', '<', '&', '|', '^']

def innerSigns : List Char := ['.', '?', '=', '>', '+', '-', '*', '/', '<', '&', '|', '!']

/-- The pairs of signs that may begin a mark of three. -/
def widePairs : List (Char × Char) :=
  [('.', '.'), ('?', '.'), ('?', '?'), ('=', '='), ('!', '='), ('*', '*'), ('<', '<'), ('&', '&'),
    ('|', '|')]

theorem inner_isDigit : Inner Char.isDigit where
  word c h := by
    rw [← Bool.not_eq_true]
    intro hdigit
    obtain ⟨n, hn, rfl⟩ := exists_digitChar hdigit
    revert n
    decide
  quote := by
    rintro _ (rfl | rfl) <;> rfl

theorem inner_mem : Inner (decide <| · ∈ innerSigns) := by
  have hsigns : ∀ c ∈ innerSigns, ¬ BeginsWord c ∧ ¬ IsQuote c := by
    have hall : innerSigns.all (fun c => decide (¬ BeginsWord c ∧ ¬ IsQuote c)) = true := by decide
    simpa using hall
  constructor
  · exact fun c hword => decide_eq_false fun hc => (hsigns c hc).1 hword
  · exact fun c hquote => decide_eq_false fun hc => (hsigns c hc).2 hquote

theorem inner_sign (hc : c ∈ innerSigns) : Inner (· == c) := by
  have hne {d : Char} (hd : decide (d ∈ innerSigns) = false) : (d == c) = false :=
    beq_false_of_ne fun heq => of_decide_eq_false hd (heq ▸ hc)
  exact ⟨fun d hd => hne (inner_mem.word d hd), fun d hd => hne (inner_mem.quote d hd)⟩

theorem mark?_none (hc : c ∉ markSigns) (rest : List Char) : mark? c rest = none := by
  unfold mark?
  split <;> first | rfl | exact absurd (by decide) hc

theorem mark?_foreign (hd : d ∉ innerSigns) (c : Char) (rest : List Char) :
    mark? c (d :: rest) = mark? c [] := by
  by_cases hc : c ∈ markSigns
  · simp only [innerSigns, List.mem_cons, List.not_mem_nil, or_false, not_or] at hd
    simp only [markSigns, List.mem_cons, List.not_mem_nil, or_false] at hc
    rcases hc with rfl | rfl | rfl | rfl | rfl | rfl | rfl | rfl | rfl | rfl | rfl | rfl | rfl |
      rfl | rfl | rfl | rfl | rfl | rfl | rfl | rfl | rfl | rfl | rfl | rfl
    all_goals first | rfl | simp [mark?, hd]
  · rw [mark?_none hc, mark?_none hc]

theorem mark?_pair {a : Char} (h : (c, a) ∉ widePairs) (rest : List Char) :
    mark? c (a :: rest) = mark? c [a] := by
  by_cases hc : c ∈ markSigns
  · by_cases ha : a ∈ innerSigns
    · simp only [innerSigns, List.mem_cons, List.not_mem_nil, or_false] at ha
      simp only [markSigns, List.mem_cons, List.not_mem_nil, or_false] at hc
      rcases ha with rfl | rfl | rfl | rfl | rfl | rfl | rfl | rfl | rfl | rfl | rfl | rfl
      all_goals
        rcases hc with rfl | rfl | rfl | rfl | rfl | rfl | rfl | rfl | rfl | rfl | rfl | rfl | rfl |
          rfl | rfl | rfl | rfl | rfl | rfl | rfl | rfl | rfl | rfl | rfl | rfl
      all_goals first | rfl | exact absurd (by decide) h
    · rw [mark?_foreign ha, mark?_foreign ha]
  · rw [mark?_none hc, mark?_none hc]

theorem mark?_wide {a : Char} (h : (c, a) ∈ widePairs) (halike : Alike rest rest') :
    mark? c (a :: rest') = mark? c (a :: rest) := by
  have hdot : Inner (· == '.') := inner_sign (by decide)
  have hequal : Inner (· == '=') := inner_sign (by decide)
  simp only [widePairs, List.mem_cons, Prod.mk.injEq, List.not_mem_nil, or_false] at h
  rcases h with ⟨rfl, rfl⟩ | ⟨rfl, rfl⟩ | h
  · refine halike.eq_of_head (fun text => mark? _ (_ :: text)) hdot (fun b _ _ hb _ => ?_) ?_
    · rw [eq_of_beq hb]
      rfl
    · exact fun b rest hb => by simp [mark?, ne_of_beq_false hb]
  · refine halike.eq_of_head (fun text => mark? _ (_ :: text)) inner_isDigit ?_ ?_
    · exact fun b _ _ hb _ => by simp [mark?, hb]
    · exact fun b rest hb => by simp [mark?, hb]
  · rcases h with ⟨rfl, rfl⟩ | ⟨rfl, rfl⟩ | ⟨rfl, rfl⟩ | ⟨rfl, rfl⟩ | ⟨rfl, rfl⟩ | ⟨rfl, rfl⟩ |
      ⟨rfl, rfl⟩
    all_goals
      refine halike.eq_of_head (fun text => mark? _ (_ :: text)) hequal (fun b _ _ hb _ => ?_) ?_
      · rw [eq_of_beq hb]
        rfl
      · exact fun b rest hb => by simp [mark?, ne_of_beq_false hb]

theorem mark?_alike (h : Alike rest rest') (c : Char) : mark? c rest' = mark? c rest := by
  refine h.eq_of_head (mark? c) inner_mem (fun a rest rest' _ h => ?_) ?_
  · by_cases hwide : (c, a) ∈ widePairs
    · exact mark?_wide hwide h
    · rw [mark?_pair hwide, mark?_pair hwide rest]
  · exact fun a rest ha => mark?_foreign (of_decide_eq_false ha) c rest

theorem mark?_size {m : Mark} {more : Nat} (h : mark? c rest = some (m, more)) :
    more ≤ rest.length ∧ byteLength (c :: rest.take more) = 1 + more := by
  unfold mark? at h
  split at h
  all_goals try split at h
  all_goals cases h
  all_goals exact ⟨by simp, rfl⟩

theorem commentAt?_alike (h : Alike rest rest') (isModule broken : Bool) (c : Char) :
    commentAt? isModule broken c rest' = commentAt? isModule broken c rest := by
  have hminus : Inner (· == '-') := inner_sign (by decide)
  by_cases hslash : c = '/'
  · subst hslash
    refine h.eq_of_head (commentAt? _ _ _) inner_mem (fun b _ _ _ _ => ?_) fun b rest hb => ?_
    · by_cases hline : b = '/' <;> by_cases hblock : b = '*' <;> simp [commentAt?, hline, hblock]
    · have hb := of_decide_eq_false hb
      simp only [innerSigns, List.mem_cons, List.not_mem_nil, or_false, not_or] at hb
      simp [commentAt?, hb]
  by_cases hopen : c = '<'
  · subst hopen
    have hbang : Inner (· == '!') := inner_sign (by decide)
    refine h.eq_of_head (commentAt? _ _ _) hbang (fun b _ _ hb h => ?_) fun b rest hb => ?_
    · rw [eq_of_beq hb]
      refine h.eq_of_head (commentAt? _ _ _ <| _ :: ·) hminus (fun b _ _ hb h => ?_)
        fun b rest hb => ?_
      · rw [eq_of_beq hb]
        refine h.eq_of_head (commentAt? _ _ _ <| _ :: _ :: ·) hminus (fun b _ _ hb h => ?_)
          fun b rest hb => ?_
        · rw [eq_of_beq hb]
          rfl
        · simp [commentAt?, ne_of_beq_false hb]
      · simp [commentAt?, ne_of_beq_false hb]
    · simp [commentAt?, ne_of_beq_false hb]
  by_cases hdash : c = '-'
  · subst hdash
    have hgreater : Inner (· == '>') := inner_sign (by decide)
    refine h.eq_of_head (commentAt? _ _ _) hminus (fun b _ _ hb h => ?_) fun b rest hb => ?_
    · rw [eq_of_beq hb]
      refine h.eq_of_head (commentAt? _ _ _ <| _ :: ·) hgreater (fun b _ _ hb h => ?_)
        fun b rest hb => ?_
      · rw [eq_of_beq hb]
        rfl
      · simp [commentAt?, ne_of_beq_false hb]
    · simp [commentAt?, ne_of_beq_false hb]
  · simp [commentAt?, hslash, hopen, hdash]

/-- What a comment must begin with, where its sign has been read in part. -/
def Fits : GapState → List Char → Prop
  | .blockOpen, text => text.head? = some '*'
  | .blockClose, text => text.head? = some '/'
  | _, _ => True

theorem commentAt?_fits {state : GapState} (h : commentAt? isModule broken c rest = some state) :
    c.utf8Size = 1 ∧ Fits state rest := by
  unfold commentAt? at h
  split at h
  all_goals try split at h
  all_goals cases h
  all_goals exact ⟨rfl, by trivial⟩

end Signs

section Gaps

variable {text here : List Char} {pos stop : Nat} {isModule broken broken' : Bool} {c : Char}

theorem Alike.any {rest rest' : List Char} {p : Char → Bool} (h : Alike rest rest')
    (hp : Inner p) : rest'.head?.any p = rest.head?.any p :=
  h.eq_of_head (·.head?.any p) hp (fun _ _ _ _ _ => rfl) fun _ _ hb => hb

theorem Alike.head_eq {rest rest' : List Char} (h : Alike rest rest') (hc : c ∈ innerSigns) :
    (rest'.head? == some c) = (rest.head? == some c) := by
  refine h.eq_of_head (·.head? == some c) (inner_sign hc) (fun b _ _ hb _ => ?_) fun b _ hb => ?_
  · rfl
  · simpa using ne_of_beq_false hb

theorem skipGap_stays {here' : List Char} (hgap : isGap c = false) (hline : isLineBreak c = false)
    (hcomment : commentAt? isModule broken c text = none) (h : Alike (c :: text) here')
    (pos : Nat) : skipGap isModule .between broken here' pos = (⟨here', pos⟩, broken, false) := by
  cases h with
  | same c h => simp [skipGap, hgap, hline, commentAt?_alike h, hcomment]
  | word => rfl
  | quote => rfl

/-- Blanks and comments are passed again before each text that begins alike. -/
theorem skipGap_again {state : GapState} (hfits : Fits state text)
    (h : skipGap isModule state broken text pos = (⟨here, stop⟩, broken', false)) :
    ∃ gap, text = gap ++ here ∧ ∀ here' pos, Alike here here' →
      skipGap isModule state broken (gap ++ here') pos =
        (⟨here', pos + byteLength gap⟩, broken', false) := by
  induction text generalizing state broken pos with
  | nil =>
    cases state <;> cases h
    all_goals exact ⟨[], rfl, fun here' pos halike => by cases halike; rfl⟩
  | cons c text ih =>
    have hstep {state' : GapState} {broken₁ : Bool} {pos₁ : Nat}
        (hrest : skipGap isModule state' broken₁ text pos₁ = (⟨here, stop⟩, broken', false))
        (hfits' : Fits state' text)
        (hread : ∀ text' pos, Alike text text' → skipGap isModule state broken (c :: text') pos =
          skipGap isModule state' broken₁ text' (pos + c.utf8Size)) :
        ∃ gap, c :: text = gap ++ here ∧ ∀ here' pos, Alike here here' →
          skipGap isModule state broken (gap ++ here') pos =
            (⟨here', pos + byteLength gap⟩, broken', false) := by
      obtain ⟨gap, rfl, hagain⟩ := ih hfits' hrest
      refine ⟨c :: gap, rfl, fun here' pos halike => ?_⟩
      rw [List.cons_append, hread _ _ (halike.append gap), hagain _ _ halike, byteLength_cons,
        Nat.add_assoc]
    cases state with
    | between =>
      rw [skipGap] at h
      split at h
      · next hgap => exact hstep h trivial fun text' pos _ => by rw [skipGap, if_pos hgap]
      split at h
      · next hgap hline =>
        exact hstep h trivial fun text' pos _ => by rw [skipGap, if_neg hgap, if_pos hline]
      · next hgap hline =>
        cases hcomment : commentAt? isModule broken c text with
        | some state =>
          obtain ⟨hsize, hfits'⟩ := commentAt?_fits hcomment
          rw [hcomment] at h
          refine hstep h hfits' fun text' pos halike => ?_
          rw [skipGap, if_neg hgap, if_neg hline, commentAt?_alike halike, hcomment, hsize]
        | none =>
          rw [hcomment] at h
          cases h
          exact ⟨[], rfl, fun here' pos halike => skipGap_stays (eq_false_of_ne_true hgap)
            (eq_false_of_ne_true hline) hcomment halike pos⟩
    | line =>
      rw [skipGap] at h
      split at h
      · next hline => exact hstep h trivial fun text' pos _ => by rw [skipGap, if_pos hline]
      · next hline => exact hstep h trivial fun text' pos _ => by rw [skipGap, if_neg hline]
    | blockOpen =>
      cases hfits
      exact hstep h trivial fun text' pos _ => rfl
    | block =>
      rw [skipGap] at h
      split at h
      · next hclose =>
        obtain ⟨hstar, hslash⟩ := Bool.and_eq_true_iff.1 hclose
        obtain rfl := eq_of_beq hstar
        refine hstep h (eq_of_beq hslash) fun text' pos halike => ?_
        rw [skipGap, halike.head_eq (by decide), if_pos hclose]
        rfl
      · next hclose =>
        refine hstep h trivial fun text' pos halike => ?_
        rw [skipGap, halike.head_eq (by decide), if_neg hclose]
    | blockClose =>
      cases hfits
      exact hstep h trivial fun text' pos _ => rfl

end Gaps

end ModuleBundler.Script
