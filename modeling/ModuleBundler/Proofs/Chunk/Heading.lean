import ModuleBundler.Chunk
import ModuleBundler.Proofs.Script.Opening

/-! What the name of a chunk does to its script. The script has the name in a comment that ends with
the line, so a name of one line counts for nothing behind it, and any other goes on as text of the
script. -/
namespace ModuleBundler

namespace Script

def behindLine (text : List Char) : List Char := (text.dropWhile fun c => !isLineBreak c).tail

variable {line : List Char}

theorem of_one_line (h : (line.all fun c => !isLineBreak c) = true) :
    ∀ c ∈ line, isLineBreak c = false := by
  simpa using h

theorem behindLine_append_of_line (h : ∀ c ∈ line, isLineBreak c = false) (text : List Char) :
    behindLine (line ++ text) = behindLine text := by
  unfold behindLine
  rw [List.dropWhile_append_of_pos fun c hc => by simp [h c hc]]

theorem behindLine_append_of_break (h : ∃ c ∈ line, isLineBreak c = true) (text : List Char) :
    behindLine (line ++ text) = behindLine line ++ text := by
  unfold behindLine
  induction line with
  | nil => simp at h
  | cons c more ih =>
    by_cases hc : isLineBreak c = true
    · simp [hc]
    · obtain ⟨d, hd, hbreak⟩ := h
      have hmore : d ∈ more := (List.mem_cons.1 hd).resolve_left fun heq => hc (heq ▸ hbreak)
      simpa [hc] using ih ⟨d, hmore, hbreak⟩

theorem behindLine_ended_eq_nil :
    behindLine (line ++ ['\n']) = [] ↔ ∀ c ∈ line, isLineBreak c = false := by
  constructor
  · intro h c hc
    refine Bool.eq_false_iff.2 fun hbreak => ?_
    rw [behindLine_append_of_break ⟨c, hc, hbreak⟩] at h
    simp at h
  · intro h
    exact behindLine_append_of_line h _

end Script

namespace Chunk

open Script

theorem toList_line (front text : String) :
    (front ++ text ++ "\n").toList = front.toList ++ (text.toList ++ ['\n']) := by
  simp

theorem toList_heading (name : String) : (heading name).toList =
    '/' :: '/' :: " tinypack chunk: ".toList ++ (name.toList ++ ['\n']) := by
  have hslashes : "// tinypack chunk: ".toList = '/' :: '/' :: " tinypack chunk: ".toList := by
    decide
  exact (toList_line _ name).trans (congrArg (· ++ (name.toList ++ ['\n'])) hslashes)

theorem toList_script (c : Chunk) : c.script.toList = (heading c.name).toList ++ c.code.toList := by
  rw [script, String.toList_append]

theorem behindLine_script_eq (c : Chunk) :
    behindLine c.script.toList = behindLine (c.name.toList ++ ['\n']) ++ c.code.toList := by
  have hfront : ∀ d ∈ '/' :: '/' :: " tinypack chunk: ".toList, isLineBreak d = false :=
    of_one_line (by decide)
  have hbreak : ∃ d ∈ c.name.toList ++ ['\n'], isLineBreak d = true := ⟨'\n', by simp, by decide⟩
  rw [toList_script, toList_heading, List.append_assoc, behindLine_append_of_line hfront,
    behindLine_append_of_break hbreak]

theorem not_hasHashbang_code (c : Chunk) : ¬ HasHashbang c.code.toList := by
  have hopen : "(() => \x7b\n".toList = '(' :: "() => \x7b\n".toList := by decide
  intro h
  simp only [code, String.toList_append, List.append_assoc, hopen, List.cons_append] at h
  exact absurd (List.cons_prefix_cons.1 h).1 (by decide)

/-- A heading of one line is passed over, so the script is read as its code alone is. -/
theorem read_script_eq {c : Chunk} (hname : ∀ d ∈ c.name.toList, isLineBreak d = false)
    (dialect : Dialect) : Program.read dialect c.script.toList =
      Program.behind (byteLength (heading c.name).toList) (Program.read dialect c.code.toList) := by
  have hfront : ∀ d ∈ " tinypack chunk: ".toList, isLineBreak d = false := of_one_line (by decide)
  have hline : ∀ d ∈ " tinypack chunk: ".toList ++ c.name.toList, isLineBreak d = false := by
    intro d hd
    exact (List.mem_append.1 hd).elim (hfront d) (hname d)
  have hscript : c.script.toList = '/' :: '/' :: (" tinypack chunk: ".toList ++ c.name.toList ++
      '\n' :: c.code.toList) := by
    rw [toList_script, toList_heading]
    simp only [List.cons_append, List.append_assoc, List.nil_append]
  have hlength : byteLength (heading c.name).toList =
      2 + byteLength (" tinypack chunk: ".toList ++ c.name.toList) + 1 := by
    have hsizes : '/'.utf8Size = 1 ∧ '\n'.utf8Size = 1 := by decide
    rw [toList_heading]
    simp only [List.cons_append, byteLength_cons, byteLength_append, byteLength_nil]
    omega
  rw [hscript, hlength]
  exact Program.read_behind (fun h => absurd (List.cons_prefix_cons.1 h).1 (by decide))
    c.not_hasHashbang_code (skipGap_slashes hline c.code.toList)

/-- Behind the first line of a script stands what the name has behind its own first line break, and
then the code, which is the same for all names. So two names give one text there exactly when they
themselves go on alike. Nothing but the code is there exactly when the name is of one line, and then
the script is read as the code alone is. -/
theorem behindLine_script_iff (c : Chunk) :
    behindLine c.script.toList = behindLine (c.name.toList ++ ['\n']) ++ c.code.toList ∧
    (∀ name, behindLine { c with name := name }.script.toList = behindLine c.script.toList ↔
      behindLine (name.toList ++ ['\n']) = behindLine (c.name.toList ++ ['\n'])) ∧
    (behindLine c.script.toList = c.code.toList ↔ ∀ d ∈ c.name.toList, isLineBreak d = false) ∧
    ((∀ d ∈ c.name.toList, isLineBreak d = false) →
      ∀ dialect, Program.read dialect c.script.toList =
        Program.behind (byteLength (heading c.name).toList)
          (Program.read dialect c.code.toList)) := by
  refine ⟨behindLine_script_eq c, fun name => ?_, ?_, fun hname => read_script_eq hname⟩
  · rw [behindLine_script_eq, behindLine_script_eq c]
    exact List.append_left_inj c.code.toList
  · rw [behindLine_script_eq, List.append_left_eq_self, behindLine_ended_eq_nil]

def plainModule : Module := ⟨"./a.js", .ofString "/app/a.js", "1;", [], ["main"]⟩

def plainChunk : Chunk := ⟨"main", plainModule, [plainModule]⟩

/-- A name of one line, and one of two lines, of which the second is a line of the script. -/
theorem behindLine_script_plain :
    (∀ dialect, Program.read dialect plainChunk.script.toList =
      Program.behind 24 (Program.read dialect plainChunk.code.toList)) ∧
    behindLine { plainChunk with name := "side" }.script.toList =
      behindLine plainChunk.script.toList ∧
    behindLine { plainChunk with name := "a\nconst = ;" }.script.toList =
      "const = ;\n".toList ++ plainChunk.code.toList := by
  have hline : ∀ d ∈ plainChunk.name.toList, isLineBreak d = false := of_one_line (by decide)
  have hlength : byteLength (heading plainChunk.name).toList = 24 := by decide
  refine ⟨hlength ▸ (behindLine_script_iff plainChunk).2.2.2 hline,
    ((behindLine_script_iff plainChunk).2.1 "side").2 (by decide), ?_⟩
  rw [(behindLine_script_iff _).1]
  exact congrArg (· ++ plainChunk.code.toList) (by decide)

end Chunk

end ModuleBundler
