import ModuleBundler.Script.Dependency

/-! What may stand before the first token of a text. Blanks and comments count for nothing but the
places of what follows, so a comment above a text moves what is read of it and changes nothing else;
but a line that addresses the system's loader is only known at the very start. -/
namespace ModuleBundler.Script

open Lexer

section Places

variable {m n : Nat}

theorem Span.moved_moved (s : Span) : (s.moved n).moved m = s.moved (m + n) := by
  simp [moved, Nat.add_assoc]

theorem Fault.moved_moved (f : Fault) : (f.moved n).moved m = f.moved (m + n) := by
  simp [moved, Nat.add_assoc]

mutual

theorem Node.moved_moved (n m : Nat) : ∀ t : Node, (t.moved n).moved m = t.moved (m + n)
  | .leaf .. => by simp only [Node.moved, Span.moved_moved]
  | .call _ f types arguments => by
    simp only [Node.moved, Span.moved_moved, Node.moved_moved n m f,
      Node.movedAll_movedAll n m types, Node.movedAll_movedAll n m arguments]
  | .branch _ _ parts => by
    simp only [Node.moved, Span.moved_moved, Node.movedAll_movedAll n m parts]

theorem Node.movedAll_movedAll (n m : Nat) : ∀ ts : List Node,
    Node.movedAll m (Node.movedAll n ts) = Node.movedAll (m + n) ts
  | [] => rfl
  | t :: more => by
    simp only [Node.movedAll, Node.moved_moved n m t, Node.movedAll_movedAll n m more]

end

def DependencyCall.moved (n : Nat) (c : DependencyCall) : DependencyCall :=
  ⟨c.specifier, c.callee.moved n, c.argument.moved n⟩

theorem Node.moved_eq_leaf {t : Node} {kind : Leaf} {span : Span} {text : String}
    (h : t.moved n = .leaf kind span text) : ∃ span', t = .leaf kind span' text := by
  cases t <;> simp only [moved] at h <;> cases h
  exact ⟨_, rfl⟩

theorem Node.dependency?_moved (callee : String) (n : Nat) (t : Node) :
    dependency? callee (t.moved n) = (dependency? callee t).map (DependencyCall.moved n) := by
  fun_cases dependency? callee t with
  | case1 span at_ types argument specifier more =>
    simp [moved, movedAll, dependency?, DependencyCall.moved]
  | case2 span at_ name types argument specifier more hname =>
    simp [moved, movedAll, dependency?, hname]
  | case3 t hother =>
    -- moving keeps shapes, so what has another shape has it behind the bytes as well
    unfold dependency?
    split
    next _ _ _ _ _ _ _ heq =>
      cases t with
      | leaf | branch =>
        simp only [moved] at heq
        cases heq
      | call span f types arguments =>
        simp only [moved, call.injEq] at heq
        obtain ⟨-, hf, -, harguments⟩ := heq
        cases arguments with
        | nil => cases harguments
        | cons first more =>
          obtain ⟨at_, rfl⟩ := moved_eq_leaf hf
          obtain ⟨argument, rfl⟩ := moved_eq_leaf (List.cons.inj harguments).1
          exact (hother _ _ _ _ _ _ _ rfl).elim
    next => rfl

mutual

theorem Node.dependencies_moved (callee : String) (n : Nat) : ∀ t : Node,
    dependencies callee (t.moved n) = (dependencies callee t).map (DependencyCall.moved n)
  | .leaf .. => rfl
  | .branch _ _ parts => Node.dependenciesIn_moved callee n parts
  | .call span f types arguments => by
    have hcall := dependency?_moved callee n (.call span f types arguments)
    simp only [Node.moved] at hcall ⊢
    simp only [dependencies, hcall, Node.dependencies_moved callee n f,
      Node.dependenciesIn_moved callee n types, Node.dependenciesIn_moved callee n arguments,
      List.map_append]
    cases dependency? callee (.call span f types arguments) <;> rfl

theorem Node.dependenciesIn_moved (callee : String) (n : Nat) : ∀ ts : List Node,
    dependenciesIn callee (movedAll n ts) = (dependenciesIn callee ts).map (DependencyCall.moved n)
  | [] => rfl
  | t :: more => by
    simp only [movedAll, dependenciesIn, Node.dependencies_moved callee n t,
      Node.dependenciesIn_moved callee n more, List.map_append]

end

end Places

def HasHashbang (text : List Char) : Prop := ['#', '!'] <+: text

instance (text : List Char) : Decidable (HasHashbang text) :=
  inferInstanceAs (Decidable (['#', '!'] <+: text))

/-- A text that is one comment between `/*` and the first `*/` behind that. -/
def IsComment (text : List Char) : Prop :=
  ∃ body, text = '/' :: '*' :: (body ++ ['*', '/']) ∧ ¬ ['*', '/'] <:+: body ++ ['*']

section Gap

variable {isModule : Bool}

theorem skipGap_add (n : Nat) (state : GapState) (broken : Bool) (text : List Char) (pos : Nat) :
    skipGap isModule state broken text (n + pos) =
      (⟨(skipGap isModule state broken text pos).1.rest,
        n + (skipGap isModule state broken text pos).1.pos⟩,
        (skipGap isModule state broken text pos).2) := by
  induction text generalizing state broken pos with
  | nil => cases state <;> rfl
  | cons c rest ih =>
    have hmore : ∀ state broken k, skipGap isModule state broken rest (n + pos + k) =
        (⟨(skipGap isModule state broken rest (pos + k)).1.rest,
          n + (skipGap isModule state broken rest (pos + k)).1.pos⟩,
          (skipGap isModule state broken rest (pos + k)).2) := by
      intro state broken k
      rw [Nat.add_assoc]
      exact ih state broken (pos + k)
    cases state with
    | between =>
      rw [skipGap, skipGap]
      split
      · exact hmore ..
      split
      · exact hmore ..
      cases commentAt? isModule broken c rest with
      | none => rfl
      | some state => exact hmore ..
    | line | block =>
      rw [skipGap, skipGap]
      split <;> exact hmore ..
    | blockOpen | blockClose => exact hmore ..

theorem skipGap_block {body : List Char} (h : ¬ ['*', '/'] <:+: body ++ ['*']) (text : List Char)
    (pos : Nat) : skipGap isModule .block true (body ++ '*' :: '/' :: text) pos =
      skipGap isModule .between true text (pos + byteLength body + 2) := by
  induction body generalizing pos with
  | nil => rfl
  | cons c more ih =>
    -- a comment that ended here would have its two closing signs inside the body
    have hopen : (c == '*' && (more ++ '*' :: '/' :: text).head? == some '/') = false := by
      refine Bool.eq_false_iff.2 fun hclose => ?_
      obtain ⟨rfl, hhead⟩ : c = '*' ∧ (more ++ '*' :: '/' :: text).head? = some '/' := by
        simpa using hclose
      cases more with
      | nil => cases hhead
      | cons d rest =>
        obtain rfl : d = '/' := by simpa using hhead
        exact h ⟨[], rest ++ ['*'], rfl⟩
    have hmore := ih (fun hclose => h (hclose.trans (List.suffix_cons ..).isInfix))
      (pos + c.utf8Size)
    rw [List.cons_append, skipGap, if_neg (ne_true_of_eq_false hopen), Bool.true_or, hmore,
      byteLength_cons]
    congr 1
    omega

theorem skipGap_line {line rest : List Char} (h : ∀ c ∈ line, isLineBreak c = false)
    (hrest : ∀ c, rest.head? = some c → isLineBreak c = true) (broken : Bool) (pos : Nat) :
    skipGap isModule .line broken (line ++ rest) pos =
      skipGap isModule .between broken rest (pos + byteLength line) := by
  induction line generalizing pos with
  | nil =>
    cases rest with
    | nil => rfl
    | cons c more =>
      have hbreak := hrest c rfl
      have hgap : isGap c = false := by
        simp only [isLineBreak, Bool.or_eq_true, beq_iff_eq] at hbreak
        rcases hbreak with ((rfl | rfl) | rfl) | rfl <;> rfl
      simp [skipGap, hbreak, hgap]
  | cons c more ih =>
    obtain ⟨hc, hmore⟩ := List.forall_mem_cons.1 h
    have hline := ih hmore (pos + c.utf8Size)
    rw [List.cons_append, skipGap, if_neg (ne_true_of_eq_false hc), hline, byteLength_cons,
      Nat.add_assoc pos]

theorem skipGap_slashes {line : List Char} (h : ∀ c ∈ line, isLineBreak c = false)
    (text : List Char) :
    skipGap isModule .between true ('/' :: '/' :: (line ++ '\n' :: text)) 0 =
      skipGap isModule .between true text (2 + byteLength line + 1) := by
  have hbreak : ∀ c, ('\n' :: text).head? = some c → isLineBreak c = true := by
    rintro _ ⟨⟩
    rfl
  exact skipGap_line h hbreak true 2

theorem skipGap_comment_line {comment : List Char} (h : IsComment comment) (text : List Char) :
    skipGap isModule .between true (comment ++ '\n' :: text) 0 =
      skipGap isModule .between true text (byteLength comment + 1) := by
  obtain ⟨body, rfl, hbody⟩ := h
  have hopen : skipGap isModule .between true
      ('/' :: '*' :: (body ++ ['*', '/']) ++ '\n' :: text) 0 =
        skipGap isModule .block true (body ++ '*' :: '/' :: '\n' :: text) 2 := by
    rw [List.cons_append, List.cons_append, List.append_assoc]
    rfl
  rw [hopen, skipGap_block hbody]
  have hlength : byteLength ('/' :: '*' :: (body ++ ['*', '/'])) = 2 + byteLength body + 2 := by
    simp only [byteLength_cons, byteLength_append, byteLength_nil]
    have hsizes : '/'.utf8Size = 1 ∧ '*'.utf8Size = 1 := by decide
    omega
  rw [hlength]
  rfl

end Gap

namespace Program

variable {dialect : Dialect} {text comment : List Char} {start : Cursor} {broken opened : Bool}

theorem read_of_skipGap (h : ¬ HasHashbang text)
    (hskip : skipGap dialect.isModule .between true text 0 = (start, broken, opened)) :
    read dialect text =
      if opened then .error ⟨start.pos, .unterminated "comment"⟩
      else behind start.pos (readFrom dialect (next dialect.isModule true ⟨start.rest, 0⟩)) := by
  unfold read
  split
  · exact absurd ⟨_, rfl⟩ h
  · rw [hskip]

theorem behind_behind (m n : Nat) (r : Except Fault Program) :
    behind m (behind n r) = behind (m + n) r := by
  cases r with
  | error fault => exact congrArg Except.error fault.moved_moved
  | ok program =>
    refine congrArg Except.ok ?_
    simp only [moved, Node.moved_moved, Option.map_map]
    congr 2
    funext span
    exact span.moved_moved

theorem not_hasHashbang_comment (h : IsComment comment) (rest : List Char) :
    ¬ HasHashbang (comment ++ rest) := by
  obtain ⟨body, rfl, -⟩ := h
  exact fun h => absurd (List.cons_prefix_cons.1 h).1 (by decide)

/-- A text is read the same behind what is passed over, but for the places. -/
theorem read_behind {whole : List Char} {n : Nat} (hwhole : ¬ HasHashbang whole)
    (h : ¬ HasHashbang text)
    (hpassed : skipGap dialect.isModule .between true whole 0 =
      skipGap dialect.isModule .between true text n) :
    read dialect whole = behind n (read dialect text) := by
  rcases hskip : skipGap dialect.isModule .between true text 0 with ⟨start, broken, opened⟩
  have hbehind : skipGap dialect.isModule .between true whole 0 =
      (⟨start.rest, n + start.pos⟩, broken, opened) := by
    have hadd := @skipGap_add dialect.isModule n .between true text 0
    rwa [Nat.add_zero, ← hpassed, hskip] at hadd
  rw [read_of_skipGap hwhole hbehind, read_of_skipGap h hskip]
  cases opened with
  | true => rfl
  | false => exact (behind_behind ..).symm

theorem read_below_comment (hcomment : IsComment comment) (h : ¬ HasHashbang text) :
    read dialect (comment ++ '\n' :: text) =
      behind (byteLength comment + 1) (read dialect text) :=
  read_behind (not_hasHashbang_comment hcomment _) h (skipGap_comment_line hcomment text)

theorem read_below_comment_hashbang (hcomment : IsComment comment) (h : HasHashbang text) :
    read dialect (comment ++ '\n' :: text) =
      .error ⟨byteLength comment + 1, .unknownCharacter⟩ := by
  obtain ⟨line, rfl⟩ := h
  -- the sign is where the first token should be, and no token begins with it
  have hbelow : skipGap dialect.isModule .between true (comment ++ '\n' :: '#' :: '!' :: line) 0 =
      (⟨'#' :: '!' :: line, byteLength comment + 1⟩, true, false) := by
    rw [skipGap_comment_line hcomment]
    rfl
  have hfirst : readFrom dialect (next dialect.isModule true ⟨'#' :: '!' :: line, 0⟩) =
      .error ⟨0, .unknownCharacter⟩ := rfl
  show read dialect (comment ++ '\n' :: '#' :: '!' :: line) = _
  rw [read_of_skipGap (not_hasHashbang_comment hcomment _) hbelow]
  dsimp only
  rw [hfirst]
  rfl

end Program

section Scan

variable {callee text comment : String} {dialect : Dialect}

theorem toList_below (comment text : String) :
    (comment ++ "\n" ++ text).toList = comment.toList ++ '\n' :: text.toList := by
  simp

theorem scan_below_comment (hcomment : IsComment comment.toList)
    (h : ¬ HasHashbang text.toList) {found : Scan} (hscan : scan callee dialect text = .ok found) :
    ∃ below n, scan callee dialect (comment ++ "\n" ++ text) = .ok below ∧
      below.calls = found.calls.map (DependencyCall.moved n) := by
  unfold scan at hscan ⊢
  rw [toList_below, Program.read_below_comment hcomment h]
  cases hread : Program.read dialect text.toList with
  | error fault =>
    rw [hread] at hscan
    cases hscan
  | ok program =>
    rw [hread] at hscan
    cases hscan
    exact ⟨_, byteLength comment.toList + 1, rfl, Node.dependencies_moved ..⟩

theorem scan_below_comment_hashbang (callee : String) (dialect : Dialect)
    (hcomment : IsComment comment.toList) (h : HasHashbang text.toList) :
    ∃ fault, scan callee dialect (comment ++ "\n" ++ text) = .error fault := by
  unfold scan
  rw [toList_below, Program.read_below_comment_hashbang hcomment h]
  exact ⟨_, rfl⟩

end Scan

end ModuleBundler.Script
