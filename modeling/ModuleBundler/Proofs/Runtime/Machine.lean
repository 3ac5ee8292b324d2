import ModuleBundler.Keyed
import ModuleBundler.Proofs.Runtime.Loader
import ModuleBundler.Proofs.Script.Code

/-! What the statements of a script do when they run: its variables, its functions, and the objects
that it creates. Records of modules are kept in a world, and the functions of the registry do what
is given for them, as in the loader that is described beside them. -/
namespace ModuleBundler.Runtime

open Script

inductive Value (ν : Type) where
  | undefined
  | truth (b : Bool)
  | text (text : String)
  /-- An object of the script itself, with its number. -/
  | table (n : Nat)
  | record (n : Nat)
  /-- What a record exported at some moment. -/
  | exports (record : Nat) (v : ν)
  /-- A function of the script, with the frames that its names are looked up in. -/
  | function (declared : Bool) (parameters : List String) (body : List Code) (scope : List Nat)
  /-- A function that stands in an object. -/
  | given (key : String) (parameters : List String)

/-- A machine that runs a script. The variables of each call are in a frame of their own. -/
structure Machine (ω ν : Type) where
  world : ω
  records : Nat
  tables : List (List (String × Value ν))
  frames : List (List (String × Value ν))
  trace : List Event

variable {ω ν : Type}

namespace Machine

def start (world : ω) : Machine ω ν := ⟨world, 0, [], [], []⟩

def note (M : Machine ω ν) (events : List Event) : Machine ω ν :=
  { M with trace := M.trace ++ events }

def work (change : ω → ω) (M : Machine ω ν) : Machine ω ν := { M with world := change M.world }

def create (M : Machine ω ν) (host : Host ω ν) : Machine ω ν :=
  { M with world := host.create M.records M.world, records := M.records + 1 }

def push (M : Machine ω ν) (frame : List (String × Value ν)) : Machine ω ν :=
  { M with frames := M.frames ++ [frame] }

def lookup (M : Machine ω ν) (x : String) : List Nat → Run (Value ν)
  | [] => if x = "undefined" then pure .undefined else throw x
  | n :: scope =>
    match M.frames[n]?.bind (Keyed.get? x) with
    | some v => pure v
    | none => M.lookup x scope

def assign (M : Machine ω ν) (scope : List Nat) (x : String) (v : Value ν) : Machine ω ν :=
  match scope with
  | [] => M
  | n :: _ => { M with frames := M.frames.modify n (Keyed.put x v) }

def set (M : Machine ω ν) (n : Nat) (key : String) (v : Value ν) : Machine ω ν :=
  { M with tables := M.tables.modify n (Keyed.put key v) }

/-- The keys with which every object has a property from the start. -/
def inheritedKeys : List String :=
  ["constructor", "hasOwnProperty", "isPrototypeOf", "propertyIsEnumerable", "toLocaleString",
    "toString", "valueOf", "__defineGetter__", "__defineSetter__", "__lookupGetter__",
    "__lookupSetter__", "__proto__"]

def property (M : Machine ω ν) (host : Host ω ν) (key : String) : Value ν → Run (Value ν)
  | .table n =>
    match M.tables[n]?.bind (Keyed.get? key) with
    | some v => pure v
    | none => if key ∈ inheritedKeys then throw key else pure .undefined
  | .record n => if key = "exports" then pure (.exports n (host.exports n M.world)) else throw key
  | _ => throw key

end Machine

/-- Whether one of two values that are compared is `undefined`, and the other is not. -/
def differ : Value ν → Value ν → Run Bool
  | .undefined, .undefined => pure false
  | .undefined, _ | _, .undefined => pure true
  | _, _ => throw "!=="

def isRecord : List Code → Bool
  | [.property key (.object [])] => key == "exports"
  | _ => false

section Evaluation

variable (host : Host ω ν) (call : Value ν → List (Value ν) → Machine ω ν →
  Run (Value ν × Machine ω ν)) (scope : List Nat)

mutual

@[simp] def eval : Code → Machine ω ν → Run (Value ν × Machine ω ν)
  | .name x, M => do return (← M.lookup x scope, M)
  | .text text, M => pure (.text text, M)
  | .member o key, M => do
    let (o, M) ← eval o M
    return (← M.property host key o, M)
  | .element o key, M => do
    let (o, M) ← eval o M
    let (key, M) ← eval key M
    match key with
    | .text key => return (← M.property host key o, M)
    | _ => throw "[]"
  | .call f inputs, M => do
    let (f, M) ← eval f M
    let (inputs, M) ← evalAll inputs M
    call f inputs M
  | .assign (.element o key) v, M => do
    let (o, M) ← eval o M
    let (key, M) ← eval key M
    let (v, M) ← eval v M
    match o, key with
    | .table n, .text key => if key = "__proto__" then throw key else return (v, M.set n key v)
    | _, _ => throw "="
  | .differs l r, M => do
    let (l, M) ← eval l M
    let (r, M) ← eval r M
    return (.truth (← differ l r), M)
  | .object members, M =>
    if isRecord members then pure (.record M.records, M.create host)
    else do
      let (ps, M) ← evalMembers members M
      return (.table M.tables.length, { M with tables := M.tables ++ [Keyed.ofPairs ps] })
  | .arrow xs body, M => pure (.function false xs body scope, M)
  | _, _ => throw "expression"

@[simp] def evalAll : List Code → Machine ω ν → Run (List (Value ν) × Machine ω ν)
  | [], M => pure ([], M)
  | c :: more, M => do
    let (v, M) ← eval c M
    let (vs, M) ← evalAll more M
    return (v :: vs, M)

@[simp] def evalMembers : List Code → Machine ω ν → Run (List (String × Value ν) × Machine ω ν)
  | [], M => pure ([], M)
  | .property key (.given xs _) :: more, M => do
    if key = "__proto__" then throw key
    let (ps, M) ← evalMembers more M
    return ((key, .given key xs) :: ps, M)
  | _, _ => throw "member"

end

mutual

@[simp] def exec : Code → Machine ω ν → Run (Option (Value ν) × Machine ω ν)
  | .var x v, M => do
    let (v, M) ← eval host call scope v M
    return (none, M.assign scope x v)
  | .if_ test body, M => do
    match ← eval host call scope test M with
    | (.truth true, M) => execAll body M
    | (.truth false, M) => return (none, M)
    | _ => throw "if"
  | .return_ v, M => do
    let (v, M) ← eval host call scope v M
    return (some v, M)
  | .function .., M => pure (none, M)
  | c, M => do
    let (_, M) ← eval host call scope c M
    return (none, M)

@[simp] def execAll : List Code → Machine ω ν → Run (Option (Value ν) × Machine ω ν)
  | [], M => pure (none, M)
  | c :: more, M => do
    match ← exec c M with
    | (some v, M) => return (some v, M)
    | (none, M) => execAll more M

end

end Evaluation

mutual

def ownNames : Code → List String
  | .var x _ => [x]
  | .if_ _ body => ownNamesIn body
  | _ => []

def ownNamesIn : List Code → List String
  | [] => []
  | c :: more => ownNames c ++ ownNamesIn more

end

def bound : List String → List (Value ν) → List (String × Value ν)
  | [], _ => []
  | x :: xs, vs => (x, vs.headD .undefined) :: bound xs vs.tail

def functions (scope : List Nat) : List Code → List (String × Value ν)
  | [] => []
  | .function x xs body :: more => (x, .function true xs body scope) :: functions scope more
  | _ :: more => functions scope more

/-- What the variables of a function hold when it starts. Its own functions are there from the
beginning, and what is declared later has no value yet. -/
def frame (scope : List Nat) (parameters : List String) (body : List Code)
    (inputs : List (Value ν)) : List (String × Value ν) :=
  Keyed.ofPairs ((ownNamesIn body).map (·, .undefined) ++ bound parameters inputs ++
    functions scope body)

def called : Bool → List (Value ν) → List Event
  | true, [.text id] => [.called id]
  | _, _ => []

def returned : Bool → List (Value ν) → Value ν → List Event
  | true, [.text id], .exports record _ => [.returned id record]
  | _, _, _ => []

/-- What a function of the registry gets when it calls the loader. -/
def ask (call : Value ν → List (Value ν) → Machine ω ν → Run (Value ν × Machine ω ν)) (f : Value ν)
    (id : String) (M : Machine ω ν) : Run (ν × Machine ω ν) := do
  match ← call f [.text id] M with
  | (.exports _ v, M) => return (v, M)
  | _ => throw id

/-- Calls a function. Calls inside calls are followed for a number of levels. A function of the
registry gets the record of its module, the exports of that, and the loader. -/
def call (host : Host ω ν) (bodies : String → Nat → Body ω ν) :
    Nat → Value ν → List (Value ν) → Machine ω ν → Run (Value ν × Machine ω ν)
  | 0, _, _, _ => ExceptT.mk none
  | levels + 1, .function declared parameters body scope, inputs, M => do
    let inner := M.frames.length :: scope
    let start := (M.note (called declared inputs)).push (frame inner parameters body inputs)
    let (v, M) ← execAll host (call host bodies levels) inner body start
    return (v.getD .undefined, M.note (returned declared inputs (v.getD .undefined)))
  | levels + 1, .given key parameters, inputs, M => do
    let frame := bound parameters inputs
    match Keyed.get? "module" frame, Keyed.get? "exports" frame, Keyed.get? loaderName frame with
    | some (.record n), some (.exports n' _), some f =>
      if n ≠ n' then throw key
      let M ← (bodies key n).run Machine.world Machine.work (ask (call host bodies levels) f)
        (M.note [.started key n])
      return (.undefined, M.note [.finished key n])
    | _, _, _ => throw key
  | _, _, _, _ => throw "call"

def runScript (host : Host ω ν) (bodies : String → Nat → Body ω ν) (levels : Nat)
    (code : List Code) (world : ω) : Run (Machine ω ν) := do
  let (_, M) ← call host bodies levels (.function false [] code []) [] (.start world)
  return M

end ModuleBundler.Runtime
