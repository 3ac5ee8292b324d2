import ModuleBundler.Proofs.Json.Settled
import ModuleBundler.Proofs.Json.Written
import ModuleBundler.Transform

/-! The text in the module that a JSON document becomes. It is read back as the settled form of the
document, if the numbers of the document are integers. -/
namespace ModuleBundler.Transform

/-- All numbers of a document are integers. -/
def Integral (document : Json) : Prop :=
  ∀ n, Json.number n ∈ document.documents → n.isInteger = true

theorem jsonModule_eq (v : Json) :
    jsonModule v = "module.exports = " ++ v.settled.compactText ++ ";" := rfl

theorem json_run_of_parse {text : String} {document : Json} (h : Json.parse text = .ok document) :
    json.run text = .ok (jsonModule document) := by
  unfold json
  dsimp only
  rw [h]

theorem parse_settled {text : String} {document : Json} (h : Json.parse text = .ok document)
    (hintegral : Integral document) :
    Json.parse document.settled.compactText = .ok document.settled :=
  Json.parse_compactText
    ((Json.within_of_parse h).imp fun n hn hrange => ⟨hrange, hintegral n hn⟩).settled

theorem jsonModule_inj {v w : Json} :
    jsonModule v = jsonModule w ↔ v.settled.compactText = w.settled.compactText := by
  rw [jsonModule_eq, jsonModule_eq, ← String.toList_inj, ← String.toList_inj,
    String.toList_append, String.toList_append, String.toList_append, String.toList_append,
    List.append_cancel_right_eq, List.append_cancel_left_eq]

/-- The text in the module is read back as the settled form of the document, which says the same,
becomes the same module, and is the text for just the documents that say the same. -/
theorem json_round_trip {text : String} {document : Json} (h : Json.parse text = .ok document)
    (hintegral : Integral document) :
    ∃ written, json.run text = .ok ("module.exports = " ++ written ++ ";") ∧
      Json.parse written = .ok document.settled ∧ document.settled.Same document ∧
      json.run written = json.run text ∧
      ∀ other document', Json.parse other = .ok document' → Integral document' →
        (json.run other = json.run text ↔ document'.Same document) := by
  have hwritten := parse_settled h hintegral
  have hrun := json_run_of_parse h
  refine ⟨document.settled.compactText, ?_, hwritten, ?_, ?_, ?_⟩
  · rw [hrun, jsonModule_eq]
  · exact Json.same_iff_settled.2 document.settled_settled
  · rw [json_run_of_parse hwritten, hrun, jsonModule_eq, jsonModule_eq, Json.settled_settled]
  · intro other document' h' hintegral'
    rw [json_run_of_parse h', hrun, Except.ok.injEq, jsonModule_inj, Json.same_iff_settled]
    refine ⟨fun hsame => ?_, fun hsame => by rw [hsame]⟩
    have hread := parse_settled h' hintegral'
    rw [hsame, hwritten] at hread
    exact (Except.ok.inj hread).symm

def twiceKeyed : Json :=
  .object [("b", .number (.natural 1)), ("a", .array [.number (.negative 2), .string "x\n"]),
    ("b", .number (.natural 18446744073709551615))]

def twiceKeyedText : String :=
  "\x7b\"b\":1,\"a\":[-2,\"x\\n\"],\"b\":18446744073709551615\x7d"

theorem parse_twiceKeyed : Json.parse twiceKeyedText = .ok twiceKeyed := by
  have htext : twiceKeyed.compactText = twiceKeyedText := by decide
  rw [← htext]
  refine Json.parse_compactText (.object (by decide) fun m hm => ?_)
  simp only [List.mem_cons, List.not_mem_nil, or_false] at hm
  rcases hm with rfl | rfl | rfl
  · exact .number _ ⟨by decide, rfl⟩
  · refine .array (by decide) fun v hv => ?_
    simp only [List.mem_cons, List.not_mem_nil, or_false] at hv
    rcases hv with rfl | rfl
    · exact .number _ ⟨by decide, rfl⟩
    · exact .string _ _
  · exact .number _ ⟨by decide, rfl⟩

theorem integral_twiceKeyed : Integral twiceKeyed := by
  intro n hn
  simp only [twiceKeyed, Json.documents, Json.documentsOf, Json.documentsIn, List.append_nil,
    List.cons_append, List.nil_append, List.mem_cons, List.not_mem_nil, reduceCtorEq,
    Json.number.injEq, or_false, false_or] at hn
  rcases hn with rfl | rfl | rfl <;> rfl

theorem json_round_trip_twice_keyed :
    ∃ written, json.run twiceKeyedText = .ok ("module.exports = " ++ written ++ ";") ∧
      Json.parse written = .ok twiceKeyed.settled ∧ twiceKeyed.settled.Same twiceKeyed ∧
      json.run written = json.run twiceKeyedText ∧
      ∀ other document', Json.parse other = .ok document' → Integral document' →
        (json.run other = json.run twiceKeyedText ↔ document'.Same twiceKeyed) :=
  json_round_trip parse_twiceKeyed integral_twiceKeyed

end ModuleBundler.Transform
