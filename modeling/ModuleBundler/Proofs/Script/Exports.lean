import ModuleBundler.Proofs.Script.Opening
import ModuleBundler.Proofs.Script.Operand
import ModuleBundler.Proofs.Script.Statement

/-! A module of one statement, which sets what the module exports. Its text is read whatever the
expression in it is, if the text of that is read as an expression. -/
namespace ModuleBundler.Script

open Grammar (nested)
open Lexer

mutual

theorem Node.moved_zero : ∀ m : Node, m.moved 0 = m
  | .leaf .. => by simp [Node.moved, Span.moved]
  | .call _ f types arguments => by
    simp [Node.moved, Span.moved, Node.moved_zero f, Node.movedAll_zero types,
      Node.movedAll_zero arguments]
  | .branch _ _ parts => by simp [Node.moved, Span.moved, Node.movedAll_zero parts]

theorem Node.movedAll_zero : ∀ ms : List Node, Node.movedAll 0 ms = ms
  | [] => rfl
  | m :: more => by rw [Node.movedAll, Node.moved_zero m, Node.movedAll_zero more]

end

theorem Program.moved_zero (p : Program) : p.moved 0 = p := by
  have hspan : Span.moved 0 = id := funext fun s => by simp [Span.moved]
  simp [Program.moved, Node.moved_zero, hspan]

def Program.exported? (p : Program) : Option Node :=
  match p.hashbang, p.tree with
  | none, .branch .program _ [.branch .expressionStatement _ [.branch .assign _ [left, value]]] =>
    match left with
    | .branch .member _ [.leaf .identifier _ object, .leaf .word _ key] =>
      if object = "module" ∧ key = "exports" then some value else none
    | _ => none
  | _, _ => none

section Heading

variable {rest : List Char}

def exportsHeading : String := "module.exports = "

def exportsText (text : List Char) : List Char := exportsHeading.toList ++ (text ++ [';'])

theorem length_exportsText (text : List Char) : (exportsText text).length = text.length + 18 := by
  simp [exportsText, exportsHeading]

def moduleToken (rest : List Char) : Token :=
  ⟨.keyword .moduleWord, ⟨0, 6⟩, true, false, "module".toList, "module".toList ++ '.' :: rest,
    '.' :: rest⟩

theorem next_module (isModule : Bool) (rest : List Char) :
    next isModule true ⟨"module".toList ++ '.' :: rest, 0⟩ = sound (moduleToken rest) := by
  have hnext : next isModule true ⟨"module".toList ++ '.' :: rest, 0⟩ =
      name true ⟨"module".toList ++ '.' :: rest, 0⟩ := rfl
  have hend : NoNamePart ('.' :: rest) := by
    rintro _ ⟨⟩
    decide
  have hkeyword : Keyword.ofChars? "module".toList = some .moduleWord := by decide
  rw [hnext, name_keyword (List.all_eq_true.1 (by decide)) (by decide) hkeyword hend]
  rfl

theorem fronts_dot (rest : List Char) : Fronts ['.'] ("exports".toList ++ rest) (.mark .dot) [] :=
  fun _ _ => rfl

theorem fronts_exports (rest : List Char) :
    Fronts "exports".toList (' ' :: rest) .name "exports".toList := by
  intro isModule pos
  have hnext : next isModule false ⟨"exports".toList ++ ' ' :: rest, pos⟩ =
      name false ⟨"exports".toList ++ ' ' :: rest, pos⟩ := rfl
  have hend : NoNamePart (' ' :: rest) := by
    rintro _ ⟨⟩
    decide
  have hplain : Keyword.ofChars? "exports".toList = none := by decide
  rw [hnext, name_append (List.all_eq_true.1 (by decide)) (by decide) hplain hend]
  rfl

theorem fronts_assign (rest : List Char) : Fronts ['='] (' ' :: rest) (.mark .assign) [] :=
  fun _ _ => rfl

end Heading

namespace Parser

variable {d : Dialect} {n : Nat} {s : State} {rest : List Char}

theorem clear_blank {text : List Char} (h : Clear text) : Clear (' ' :: text) :=
  fun isModule pos => h isModule (pos + 1)

def exportsTree : Node :=
  .branch .member ⟨0, 14⟩ [.leaf .identifier ⟨0, 6⟩ "module", .leaf .word ⟨7, 14⟩ "exports"]

theorem run_primary_module (hs : s.token = moduleToken rest) (hclear : Clear ('.' :: rest)) :
    (nested d (n + 1)).primary s =
      .ok (.leaf .identifier ⟨0, 6⟩ "module") (s.reaching d ('.' :: rest) 6) := by
  have hadvance : advanceName (nested d n) s = .ok ⟨⟩ (s.reaching d ('.' :: rest) 6) :=
    run_advanceName_to (by rw [hs]; rfl) (by rw [hs]; rfl) hclear
  have hname := run_primary_naming (by rw [hs]; exact .module) hadvance
  rwa [hs] at hname

variable {word name : List Char} {m : Node}

theorem run_accesses_member (hdot : Fronts ['.'] (word ++ rest) (.mark .dot) [])
    (hword : Fronts word rest .name name) (hclear : Clear rest)
    (hstop : ∀ (s : State) pos, Stopping (s.facing d rest pos).token.kind)
    (pos start fuel : Nat) :
    accesses (nested d n) start (fuel + 2) ⟨m, false, []⟩ (s.facing d ('.' :: (word ++ rest)) pos) =
      .ok ⟨.branch .member ⟨start, pos + 1 + byteLength word⟩
        [m, .leaf .word ⟨pos + 1, pos + 1 + byteLength word⟩ (String.ofList name)], false, []⟩
        (s.reaching d rest (pos + 1 + byteLength word)) := by
  have hadvance : advance (nested d n) (s.facing d ('.' :: (word ++ rest)) pos) =
      .ok ⟨⟩ (s.reaching d (word ++ rest) (pos + 1)) := run_advance_front hdot hword.clear pos
  have hkind : (s.facing d ('.' :: (word ++ rest)) pos).token.kind = .mark .dot := hdot.kind_facing
  have hname : advanceName (nested d n) ((s.behind (pos + 1)).facing d (word ++ rest) (pos + 1)) =
      .ok ⟨⟩ (s.reaching d rest (pos + 1 + byteLength word)) := by
    refine run_advanceName_to ?_ ?_ hclear
    all_goals
      rw [hword.token_facing]
      rfl
  have hend := run_accesses_stop (d := d) (n := n)
    (.inl <| hstop (s.behind (pos + 1 + byteLength word)) (pos + 1 + byteLength word)) start fuel
  rw [accesses]
  simp [hkind, Access.settled, hadvance, dottedProperty, hword.token_facing, frontToken, anyWord,
    Token.isWord, takeLeaf, hname, wordText, hend]

theorem run_leftHand_exports
    (hs : s.token = moduleToken ("exports".toList ++ ' ' :: '=' :: ' ' :: rest)) :
    (nested d (n + 4)).leftHand s =
      .ok exportsTree (s.reaching d (' ' :: '=' :: ' ' :: rest) 14) := by
  have hclear := clear_blank (fronts_assign rest).clear
  have hstop (s : State) (pos : Nat) :
      Stopping (s.facing d (' ' :: '=' :: ' ' :: rest) pos).token.kind := .bounding .assign
  have hdot := fronts_dot (' ' :: '=' :: ' ' :: rest)
  have hstart : s.token.span.start = 0 := by rw [hs]; rfl
  have haccesses := run_accesses_member (d := d) (n := n + 3) (s := s.behind 6)
    (m := .leaf .identifier ⟨0, 6⟩ "module") hdot (fronts_exports ('=' :: ' ' :: rest)) hclear
    hstop 6 0 n
  refine Accessed.run_leftHand ⟨_, _, run_primary_module hs hdot.clear, ?_⟩ (hstop _ _)
  rw [hstart]
  exact haccesses

variable {s' : State} {value : Node}

theorem run_assignment_exports
    (hs : s.token = moduleToken ("exports".toList ++ ' ' :: '=' :: ' ' :: rest))
    (hclear : Clear rest) (hvalue : (nested d (n + 6)).assignment true
      ((s.behind 16).facing d rest 17) = .ok value s') :
    (nested d (n + 7)).assignment true s =
      .ok (.branch .assign ⟨0, s'.lastStop⟩ [exportsTree, value]) s' := by
  have hstart : s.token.span.start = 0 := by rw [hs]; rfl
  have hkind : s.token.kind = .keyword .moduleWord := by rw [hs]; rfl
  have hassign : (s.reaching d (' ' :: '=' :: ' ' :: rest) 14).token.kind = .mark .assign :=
    (fronts_assign rest).kind_facing (s := s.behind 14) (d := d)
  have hadvance : advance (nested d (n + 6)) (s.reaching d (' ' :: '=' :: ' ' :: rest) 14) =
      .ok ⟨⟩ ((s.behind 16).facing d rest 17) :=
    run_advance_front (fronts_assign rest) (clear_blank hclear) 15
  have hnaming : Naming s.token.kind := hkind ▸ .module
  have hbinary := run_binary (.naming hnaming) (run_leftHand_exports (d := d) (n := n) hs)
    (hassign ▸ .assign) 0
  rw [← hstart]
  exact run_assignment_assign (.inl rfl) (.naming hnaming) (by simp [hkind]) hbinary hassign
    hadvance hvalue

def exportsStatement (stop : Nat) (value : Node) : Node :=
  .branch .expressionStatement ⟨0, stop + 1⟩ [.branch .assign ⟨0, stop⟩ [exportsTree, value]]

theorem run_statement_exports {stop : Nat} (hd : d.typed = false) (hc : s.context.Calm)
    (hs : s.token.kind = .keyword .moduleWord) (hstart : s.token.span.start = 0)
    (h : (nested d (n + 2)).assignment true s = .ok (.branch .assign ⟨0, stop⟩ [exportsTree, value])
      (s.reaching d [';'] stop)) :
    (nested d (n + 3)).statement false s =
      .ok (exportsStatement stop value) (s.reaching d [] (stop + 1)) := by
  have hsemicolon : (';', Mark.semicolon) ∈ singles := by simp [singles, endings]
  have hkind : (s.reaching d [';'] stop).token.kind ≠ .mark .comma := by
    rw [reaching_eq, token_facing_single hsemicolon]
    simp
  have hadvance := run_advance_single (d := d) (n := n + 2) (s := s.behind stop) hsemicolon
    clear_nil stop
  have hend : endStatement (nested d (n + 2)) (s.reaching d [';'] stop) =
      .ok ⟨⟩ (s.reaching d [] (stop + 1)) := by
    simp [endStatement, eat, token_facing_single hsemicolon, hadvance]
  have hread := run_expressionStatement hd hc (hs ▸ .module) h rfl rfl hkind hend false
  rwa [hstart] at hread

section Program

variable {α : Type} {text : α → List Char} {node : Nat → α → Node} {a : α}

def exportsProgram (text : List Char) (value : Node) : Program :=
  ⟨none, .branch .program ⟨0, 18 + byteLength text⟩
    [exportsStatement (17 + byteLength text) value]⟩

theorem exported?_exportsProgram (text : List Char) (value : Node) :
    (exportsProgram text value).exported? = some value := rfl

theorem run_reader_exports (hd : d.typed = false) (hc : s.context.Calm)
    (hs : s.token = moduleToken ("exports".toList ++ ' ' :: '=' :: ' ' :: (text a ++ [';'])))
    (h : ReadsItem d ((nested d (n + 6)).assignment true) text node a) :
    Program.reader (nested d (n + 8)) s = .ok (exportsProgram (text a) (node 17 a))
      (s.reaching d [] (18 + byteLength (text a))) := by
  have hstart : s.token.span.start = 0 := by rw [hs]; rfl
  have hkind : s.token.kind = .keyword .moduleWord := by rw [hs]; rfl
  have hended : Ended [';'] .semicolon := ⟨';', [], rfl, by simp [endings]⟩
  have hlength : 17 + byteLength (text a) + 1 = 18 + byteLength (text a) := by omega
  obtain ⟨-, hclear, hvalue⟩ := h (s.behind 16) 17 [';'] .semicolon hc hended
  have hassign : (nested d (n + 7)).assignment true s =
      .ok (.branch .assign ⟨0, 17 + byteLength (text a)⟩ [exportsTree, node 17 a])
        (s.reaching d [';'] (17 + byteLength (text a))) := run_assignment_exports hs hclear hvalue
  have hstatement : (nested d (n + 8)).statement false s =
      .ok (exportsStatement (17 + byteLength (text a)) (node 17 a))
        (s.reaching d [] (17 + byteLength (text a) + 1)) :=
    run_statement_exports hd hc hkind hstart hassign
  rw [hlength] at hstatement
  have hstatements := Statements.step (not_closing hkind (by simp) (by simp)) hstatement .done
  have hreader := run_reader (by simp [hkind]) hstatements rfl (by simp)
  rw [hstart] at hreader
  exact hreader

theorem read_exports (hd : d.typed = false)
    (h : ∀ n, 5 * (text a).length + 7 ≤ n → ReadsItem d ((nested d n).assignment true) text node a)
    (hclean : strayDefault? (node 17 a) = none) :
    Program.read d (exportsText (text a)) = .ok (exportsProgram (text a) (node 17 a)) := by
  have hskip : skipGap d.isModule .between true (exportsText (text a)) 0 =
      (⟨exportsText (text a), 0⟩, true, false) := rfl
  have hhashbang : ¬ HasHashbang (exportsText (text a)) := by
    rintro ⟨more, hmore⟩
    cases hmore
  obtain ⟨behind, hbehind⟩ :
      ∃ behind, behind = "exports".toList ++ ' ' :: '=' :: ' ' :: (text a ++ [';']) := ⟨_, rfl⟩
  have hfirst : next d.isModule true ⟨exportsText (text a), 0⟩ = sound (moduleToken behind) := by
    rw [hbehind]
    exact next_module d.isModule _
  have hhere : (moduleToken behind).here = exportsText (text a) := by
    rw [hbehind]
    rfl
  -- the nesting that a program is given is more than the text of the document takes
  obtain ⟨n, hfuel⟩ : ∃ n, 8 * (exportsText (text a)).length + 64 = n + 8 :=
    Nat.exists_eq_add_of_le' (Nat.le_add_left_of_le (by decide))
  have henough : 5 * (text a).length + 7 ≤ n + 6 := by
    rw [length_exportsText] at hfuel
    omega
  have hcalm : (Program.startState d (moduleToken behind)).context.Calm := ⟨rfl, rfl⟩
  have hreader := run_reader_exports hd hcalm (congrArg moduleToken hbehind) (h (n + 6) henough)
  have hfaults : ((Program.startState d (moduleToken behind)).reaching d []
      (18 + byteLength (text a))).faults.getLast? = none := rfl
  have hstray : strayDefault? (exportsProgram (text a) (node 17 a)).tree = none := by
    simp [exportsProgram, exportsStatement, exportsTree, strayDefault?, strayDefaultIn?, hclean]
  have hgrammar : Program.grammar d (exportsText (text a)) = nested d (n + 8) := by
    rw [Program.grammar, hfuel]
  rw [Program.read_of_skipGap hhashbang hskip]
  dsimp only
  rw [hfirst]
  simp only [sound, Program.readFrom, hhere, hgrammar, hreader, hfaults, hstray]
  rw [if_neg (by decide), Program.behind, Program.moved_zero]

end Program

end Parser

end ModuleBundler.Script
