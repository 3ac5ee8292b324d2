import ModuleBundler.Proofs.Script.Respelling

/-! What trees say, as far as it takes to say what runs in the script of a chunk: names, texts,
objects, calls, functions, and the statements around them. -/
namespace ModuleBundler.Script

inductive Code where
  | name (x : String)
  | text (value : String)
  | member (object : Code) (key : String)
  | element (object key : Code)
  | call (f : Code) (inputs : List Code)
  | assign (target value : Code)
  | differs (left right : Code)
  | object (members : List Code)
  | property (key : String) (value : Code)
  | arrow (parameters : List String) (body : List Code)
  /-- A function that belongs to an object. What it does is not looked into: its body is kept as a
  tree, without the places of its parts. -/
  | given (parameters : List String) (body : Node)
  | var (x : String) (value : Code)
  | return_ (value : Code)
  | if_ (test : Code) (body : List Code)
  | function (x : String) (parameters : List String) (body : List Code)
  | other

namespace Code

/-- The parameters and the body of a function all of whose parameters are names. -/
def givenParts? : List Node → Option (List String × Node)
  | [.branch .body span parts] => some ([], .branch .body span parts)
  | .leaf .binding _ x :: more => (givenParts? more).map fun f => (x :: f.1, f.2)
  | _ => none

mutual

def ofTree : Node → Code
  | .leaf .identifier _ x => name x
  | .leaf .string _ value => text value
  | .call _ f [] inputs => call (ofTree f) (ofTrees inputs)
  | .branch .parenthesized _ [m] | .branch .expressionStatement _ [m] => ofTree m
  | .branch .member _ [m, .leaf .word _ key] => member (ofTree m) key
  | .branch .element _ [m, key] => element (ofTree m) (ofTree key)
  | .branch .assign _ [m, v] => assign (ofTree m) (ofTree v)
  | .branch (.binary (.mark .strictNotEqual)) _ [l, r] => differs (ofTree l) (ofTree r)
  | .branch .object _ members => object (ofTrees members)
  | .branch .property _ [.leaf .word _ key, v] => property key (ofTree v)
  | .branch .property _ [.leaf .text _ key, .branch (.arrow false) _ parts] =>
    property key ((givenParts? parts).elim other fun f => given f.1 f.2)
  | .branch (.arrow false) _ parts => (ofFunction? parts).elim other fun f => arrow f.1 f.2
  | .branch (.function false false) _ (.leaf .binding _ x :: parts) =>
    (ofFunction? parts).elim other fun f => function x f.1 f.2
  | .branch (.variableList .var) _ [.branch .declarator _ [.leaf .binding _ x, v]] =>
    var x (ofTree v)
  | .branch .return_ _ [v] => return_ (ofTree v)
  | .branch .if_ _ [test, .branch .block _ body] => if_ (ofTree test) (ofTrees body)
  | _ => other

def ofTrees : List Node → List Code
  | [] => []
  | m :: more => ofTree m :: ofTrees more

def ofFunction? : List Node → Option (List String × List Code)
  | [.branch .body _ parts] => some ([], ofTrees parts)
  | .leaf .binding _ x :: more => (ofFunction? more).map fun f => (x :: f.1, f.2)
  | _ => none

end

theorem ofTrees_mapIn (place : Span → Span) (new : Word → String) (ms : List Node) :
    ofTrees (Node.mapIn place new ms) = ms.map fun m => ofTree (m.map place new) := by
  induction ms with
  | nil => rfl
  | cons m more ih => rw [Node.mapIn, ofTrees, ih, List.map_cons]

end Code

namespace Node

def code (m : Node) : Code := Code.ofTree m.unplaced

section Code

variable (span span' span'' : Span) (x : String) (m v : Node) (ms : List Node)

@[simp] theorem code_identifier : (leaf .identifier span x).code = .name x := rfl

@[simp] theorem code_string : (leaf .string span x).code = .text x := rfl

@[simp] theorem code_parenthesized : (branch .parenthesized span [m]).code = m.code := rfl

@[simp] theorem code_expressionStatement :
    (branch .expressionStatement span [m]).code = m.code := rfl

@[simp] theorem code_member :
    (branch .member span [m, .leaf .word span' x]).code = .member m.code x := rfl

@[simp] theorem code_element : (branch .element span [m, v]).code = .element m.code v.code := rfl

@[simp] theorem code_assign : (branch .assign span [m, v]).code = .assign m.code v.code := rfl

@[simp] theorem code_differs : (branch (.binary (.mark .strictNotEqual)) span [m, v]).code =
    .differs m.code v.code := rfl

@[simp] theorem code_property :
    (branch .property span [.leaf .word span' x, v]).code = .property x v.code := rfl

@[simp] theorem code_var : (branch (.variableList .var) span
    [.branch .declarator span' [.leaf .binding span'' x, v]]).code = .var x v.code := rfl

@[simp] theorem code_return : (branch .return_ span [v]).code = .return_ v.code := rfl

@[simp] theorem code_call : (call span m [] ms).code = .call m.code (ms.map code) :=
  congrArg (Code.call m.code) (Code.ofTrees_mapIn _ _ ms)

@[simp] theorem code_object : (branch .object span ms).code = .object (ms.map code) :=
  congrArg Code.object (Code.ofTrees_mapIn _ _ ms)

@[simp] theorem code_if : (branch .if_ span [m, .branch .block span' ms]).code =
    .if_ m.code (ms.map code) :=
  congrArg (Code.if_ m.code) (Code.ofTrees_mapIn _ _ ms)

/-- Names as parameters in front of the body of a function. -/
inductive Parted : List Node → List String → Node → Prop where
  | body {m : Node} : Parted [m] [] m
  | parameter {span : Span} {x : String} {ms : List Node} {xs : List String} {m : Node} :
      Parted ms xs m → Parted (.leaf .binding span x :: ms) (x :: xs) m

variable {span ms} {xs : List String} {parts : List Node}

theorem Parted.givenParts?_eq (h : Parted parts xs (.branch .body span ms)) :
    Code.givenParts? (mapIn (fun _ => ⟨0, 0⟩) Word.text parts) =
      some (xs, (branch .body span ms).unplaced) := by
  generalize hbody : branch .body span ms = body at h
  induction h with
  | body =>
    subst hbody
    rfl
  | parameter _ ih =>
    rw [mapIn, map, Code.givenParts?, ih hbody]
    rfl

theorem Parted.ofFunction?_eq (h : Parted parts xs (.branch .body span ms)) :
    Code.ofFunction? (mapIn (fun _ => ⟨0, 0⟩) Word.text parts) = some (xs, ms.map code) := by
  generalize hbody : branch .body span ms = body at h
  induction h with
  | body =>
    subst hbody
    exact congrArg (fun cs => some ([], cs)) (Code.ofTrees_mapIn _ _ ms)
  | parameter _ ih =>
    rw [mapIn, map, Code.ofFunction?, ih hbody]
    rfl

theorem Parted.code_arrow (h : Parted parts xs (.branch .body span ms)) (span' : Span) :
    (branch (.arrow false) span' parts).code = .arrow xs (ms.map code) := by
  rw [code, unplaced, map, Code.ofTree, h.ofFunction?_eq]
  rfl

theorem Parted.code_function (h : Parted parts xs (.branch .body span ms)) (span' span'' : Span)
    (x : String) : (branch (.function false false) span' (.leaf .binding span'' x :: parts)).code =
      .function x xs (ms.map code) := by
  rw [code, unplaced, map, mapIn, map, Code.ofTree, h.ofFunction?_eq]
  rfl

theorem Parted.code_given (h : Parted parts xs (.branch .body span ms))
    (span₁ span₂ span₃ : Span) (x : String) : (branch .property span₁
      [.leaf .text span₂ x, .branch (.arrow false) span₃ parts]).code =
        .property x (.given xs (branch .body span ms).unplaced) := by
  show Code.property x ((Code.givenParts? (mapIn (fun _ => ⟨0, 0⟩) Word.text parts)).elim .other
    fun f => .given f.1 f.2) = _
  rw [h.givenParts?_eq]
  rfl

end Code

end Node

def Program.code (p : Program) : List Code :=
  match p.tree with
  | .branch .program _ ms => ms.map Node.code
  | _ => []

mutual

theorem Node.unplaced_moved (n : Nat) : ∀ m : Node, (m.moved n).unplaced = m.unplaced
  | .leaf .. => rfl
  | .branch kind _ parts => congrArg (Node.branch kind ⟨0, 0⟩) (Node.mapIn_movedAll n parts)
  | .call _ f types inputs => by
    simp only [Node.unplaced, Node.moved, Node.map, Node.mapIn_movedAll n types,
      Node.mapIn_movedAll n inputs]
    exact congrArg (Node.call _ · _ _) (Node.unplaced_moved n f)

theorem Node.mapIn_movedAll (n : Nat) : ∀ ms : List Node,
    Node.mapIn (fun _ => ⟨0, 0⟩) Word.text (Node.movedAll n ms) =
      Node.mapIn (fun _ => ⟨0, 0⟩) Word.text ms
  | [] => rfl
  | m :: more => congrArg₂ List.cons (Node.unplaced_moved n m) (Node.mapIn_movedAll n more)

end

theorem Program.code_moved (p : Program) (n : Nat) : (p.moved n).code = p.code := by
  have hall (ms : List Node) : (Node.movedAll n ms).map Node.code = ms.map Node.code := by
    induction ms with
    | nil => rfl
    | cons m more ih =>
      rw [Node.movedAll, List.map_cons, ih, List.map_cons, Node.code, Node.unplaced_moved,
        Node.code]
  obtain ⟨hashbang, tree⟩ := p
  rcases tree with _ | _ | ⟨kind, span, ms⟩
  · rfl
  · rfl
  · cases kind <;> try rfl
    exact hall ms

end ModuleBundler.Script
