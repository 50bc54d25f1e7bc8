import LabFleet.Service.Args
import LabFleet.Config.Profile

/-!
The sample services every build carries, for checking that a daemon is reachable and
dispatches: `sample.SampleService`, stateless arithmetic and echo, and
`sample.SelectiveSampleService`, a list of items with indexed access.

Arithmetic follows the wire's number model. Sums and products are computed over signed
64-bit integers while every operand is one and no step overflows, and otherwise over doubles
from the start; a difference is an integer when both operands are and it fits, and a double
otherwise. A double that is not finite is `null` as a sum or product and refused as a
difference or quotient. Sorting needs every two neighbouring items to be comparable (two
numbers, two strings or two booleans), is stable, and reverses the whole list on request.
-/

namespace LabFleet

/-- A number as a signed 64-bit integer, if it is one. -/
def Number.asInt64 : Number → Option Int
  | .nat n => if n < Nat.pow 2 63 then some n else none
  | .neg i => some i
  | .float _ => none

namespace Config

/-- The JSON form of a parameter; a double that is not finite is `null`. -/
def ParamValue.toJson : ParamValue → Json
  | .bool b => .bool b
  | .int i => Json.int i
  | .float f => if f.isFinite then Json.float f else .null
  | .str s => .string s
  | .list items => .array (toJsonItems items)
  | .map entries => .object (toJsonEntries entries)
where
  /-- The JSON forms of items. -/
  toJsonItems : List ParamValue → List Json
    | [] => []
    | x :: xs => x.toJson :: toJsonItems xs
  /-- The JSON forms of entries. -/
  toJsonEntries : List (String × ParamValue) → List (String × Json)
    | [] => []
    | (k, v) :: rest => (k, v.toJson) :: toJsonEntries rest

end Config

end LabFleet

namespace LabFleet.Service

open Config

/-- What an echo puts before the message. -/
def echoPrefix : String := "SERVER RECEIVED: "

/-- The operations of the arithmetic and echo service. -/
def sampleOperations : List Operation := [
  ⟨"echo", ["message"], "string", "Echo the message prefixed with \"SERVER RECEIVED: \""⟩,
  ⟨"delayed_echo", ["message", "seconds"], "string",
    "Echo after sleeping for the given number of seconds"⟩,
  ⟨"add", ["*values"], "number", "Sum of all arguments"⟩,
  ⟨"subtract", ["a", "b"], "number", "a - b"⟩,
  ⟨"multiply", ["*values"], "number", "Product of all arguments"⟩,
  ⟨"divide", ["num", "den"], "number", "num / den as a float"⟩,
  ⟨"whoami", [], "string", "Identifier of the instance that handled the call"⟩]

/-- The operations of the item-list service. -/
def selectiveOperations : List Operation := [
  ⟨"items", [], "list", "Current item list"⟩,
  ⟨"set_items", ["items"], "null", "Replace the item list"⟩,
  ⟨"sort", ["reverse"], "null", "Sort items in place"⟩,
  ⟨"item", ["index"], "any", "Item at index; negative indexes count from the end"⟩,
  ⟨"set_item", ["index", "value"], "null", "Replace the item at index"⟩]

/-- A live instance of a service. -/
inductive Instance where
  /-- The arithmetic and echo service, known by its instance number. -/
  | sample (id : Nat)
  /-- The item-list service with its items. -/
  | selective (items : List Json)

/-- The instance number that follows once `inst` is made while `next` is the next one: only an
arithmetic service takes a number. -/
def Instance.numberAfter : Instance → Nat → Nat
  | .sample _, next => next + 1
  | .selective _, next => next

theorem Instance.le_numberAfter (inst : Instance) (next : Nat) : next ≤ inst.numberAfter next := by
  cases inst
  · exact Nat.le_succ next
  · exact Nat.le_refl next

/-- The operations an instance can be called with. -/
def Instance.operations : Instance → List Operation
  | .sample _ => sampleOperations
  | .selective _ => selectiveOperations

/-- The reference of the arithmetic and echo service. -/
def sampleReference : String := "sample.SampleService"

/-- The reference of the item-list service. -/
def selectiveReference : String := "sample.SelectiveSampleService"

/-- A constructor parameter read as `read`; absent is `none`. -/
def parameter {α : Type} (params : Parameters) (name : String) (read : Json.Decoder α) :
    Result (Option α) :=
  match params.find? name with
  | none => .ok none
  | some v =>
    match read v.toJson with
    | .ok x => .ok (some x)
    | .error m => .error (.invalidArgument s!"parameter '{name}': {m}")

/-- Constructs an instance of the implementation `reference`; a new arithmetic service is
numbered `id`. -/
def construct (reference : String) (params : Parameters) (id : Nat) : Result Instance :=
  if reference = sampleReference then .ok (.sample id)
  else if reference = selectiveReference then do
    let items ← parameter params "items" values
    return .selective (items.getD [])
  else .error (.configuration reference "implementation" "not in the service catalog")

/-! ### Arithmetic -/

/-- The range of signed 64-bit integers. -/
def fitsInt64 (i : Int) : Bool := -((Nat.pow 2 63 : Nat) : Int) ≤ i && i < ((Nat.pow 2 63 : Nat) : Int)

/-- An operation on signed 64-bit integers that fails on overflow. -/
def checked (op : Int → Int → Int) (a b : Int) : Option Int :=
  let r := op a b
  if fitsInt64 r then some r else none

/-- A double as a value; one that is not finite is `null`. -/
def doubleValue (f : Float) : Json := if f.isFinite then Json.float f else .null

/-- A double as a result; one that is not finite is refused. -/
def doubleResult (f : Float) : Result Json :=
  if f.isFinite then .ok (Json.float f)
  else .error (.invalidArgument "result is not a finite number")

/-- Folds numbers from `init` over integers while every operand is an integer and nothing
overflows, and over doubles otherwise. -/
def foldNumbers (values : List Json) (init : Int) (intOp : Int → Int → Option Int)
    (floatOp : Float → Float → Float) : Result Json := do
  let numbers ← values.mapM fun
    | .number n => pure n
    | other => throw (.invalidArgument s!"expected a number, got {other.write}")
  let integral := numbers.foldlM (fun acc n => n.asInt64 >>= intOp acc) init
  match integral with
  | some total => return Json.int total
  | none => return doubleValue (numbers.foldl (fun acc n => floatOp acc n.toFloat) (Float.ofInt init))

/-- A value as a double, or the refusal naming the argument. -/
def asDouble (v : Json) (name : String) : Result Float :=
  match v with
  | .number n => .ok n.toFloat
  | _ => .error (.invalidArgument s!"argument '{name}' must be a number")

/-- A value as a signed 64-bit integer, if it is one. -/
def asInt64? : Json → Option Int
  | .number n => n.asInt64
  | _ => none

/-- Calls the arithmetic and echo service numbered `id`. -/
def sampleCall (id : Nat) (operation : String) (args : Args) : Result Json :=
  match operation with
  | "echo" => do
    let message ← args.required 0 "message" Json.Decoder.string
    return .string (echoPrefix ++ message)
  | "delayed_echo" => do
    let message ← args.required 0 "message" Json.Decoder.string
    let seconds ← args.required 1 "seconds" double
    if !seconds.isFinite || seconds < 0 then
      throw (.invalidArgument "seconds must be a non-negative number")
    -- the sleep takes a duration, which holds fewer than 2^64 seconds
    if seconds ≥ 18446744073709551616.0 then
      throw (.panicked "cannot convert float seconds to Duration: value is either too big or NaN")
    return .string (echoPrefix ++ message)
  | "add" => foldNumbers args.positional 0 (checked (· + ·)) (· + ·)
  | "multiply" => foldNumbers args.positional 1 (checked (· * ·)) (· * ·)
  | "subtract" => do
    let a ← args.required 0 "a" anyValue
    let b ← args.required 1 "b" anyValue
    match asInt64? a, asInt64? b with
    | some x, some y =>
      match checked (· - ·) x y with
      | some d => return Json.int d
      | none => doubleResult ((← asDouble a "a") - (← asDouble b "b"))
    | _, _ => doubleResult ((← asDouble a "a") - (← asDouble b "b"))
  | "divide" => do
    let num ← args.required 0 "num" anyValue
    let den ← args.required 1 "den" anyValue
    let n ← asDouble num "num"
    let d ← asDouble den "den"
    if d == 0 then throw (.invalidArgument "division by zero")
    doubleResult (n / d)
  | "whoami" => .ok (.string s!"OBJECT ID: {id}")
  | other => .error (.unknownObject other)

/-! ### Items -/

/-- How two items compare: numbers as doubles, strings by code points, booleans with `false`
first; items of other kinds do not compare. -/
def compareItems : Json → Json → Option Ordering
  | .number a, .number b =>
    let x := a.toFloat
    let y := b.toFloat
    if x < y then some .lt else if x == y then some .eq else if x > y then some .gt else none
  | .string a, .string b => some (compare a b)
  | .bool a, .bool b => some (compare a b)
  | _, _ => none

/-- Whether every two neighbouring items compare. -/
def neighboursCompare : List Json → Bool
  | a :: b :: rest => (compareItems a b).isSome && neighboursCompare (b :: rest)
  | _ => true

/-- The position an index names in a list of `len` items; a negative index counts from the
end. -/
def resolveIndex (len : Nat) (index : Int) : Result Nat :=
  let resolved : Int := if index < 0 then len + index else index
  if 0 ≤ resolved ∧ resolved < len then .ok resolved.toNat
  else .error (.invalidArgument s!"index {index} out of range")

/-- The panic of indexing past the end of a list of `len` items. -/
def outOfBounds (len index : Nat) : Error :=
  .panicked s!"index out of bounds: the len is {len} but the index is {index}"

/-- The item at a position; indexing past the end panics. -/
def itemAt (items : List Json) (i : Nat) : Result Json :=
  match items[i]? with
  | some v => .ok v
  | none => .error (outOfBounds items.length i)

/-- Calls the item-list service; gives the result and the items after the call. -/
def selectiveCall (items : List Json) (operation : String) (args : Args) :
    Result Json × List Json :=
  let keep (r : Result Json) : Result Json × List Json := (r, items)
  match operation with
  | "items" => keep (.ok (.array items))
  | "set_items" =>
    match args.required 0 "items" values with
    | .ok next => (.ok .null, next)
    | .error e => keep (.error e)
  | "sort" =>
    match args.optional 0 "reverse" Json.Decoder.bool with
    | .error e => keep (.error e)
    | .ok reverse =>
      if !neighboursCompare items then
        keep (.error (.invalidArgument "items are not mutually comparable"))
      else
        let sorted := items.mergeSort fun a b => compareItems a b != some .gt
        (.ok .null, if reverse.getD false then sorted.reverse else sorted)
  | "item" =>
    keep do
      let index ← args.required 0 "index" int64
      let i ← resolveIndex items.length index
      itemAt items i
  | "set_item" =>
    let step : Result (Nat × Json) := do
      let index ← args.required 0 "index" int64
      let value ← args.required 1 "value" anyValue
      let i ← resolveIndex items.length index
      return (i, value)
    match step with
    | .ok (i, value) =>
      if i < items.length then (.ok .null, items.set i value)
      else keep (.error (outOfBounds items.length i))
    | .error e => keep (.error e)
  | other => keep (.error (.unknownObject other))

/-- Calls an instance; gives the result and the instance after the call. -/
def Instance.call (inst : Instance) (operation : String) (args : Args) : Result Json × Instance :=
  match inst with
  | .sample id => (sampleCall id operation args, inst)
  | .selective items =>
    let (r, next) := selectiveCall items operation args
    (r, .selective next)

end LabFleet.Service
