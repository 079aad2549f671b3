import ShardedIndex.Json.Literal
import ShardedIndex.Trial.Run

/-!
# Command line

Carries out the trial that the environment asks for. The log goes to standard output as one JSON
object per line, followed by the lines of the result.
-/

namespace ShardedIndex.Trial

def quotedText (text : String) : String := String.ofList (Json.quote text.toList)

/-- A datum in a log line. -/
def datumText : Datum → String
  | .text value  => quotedText value
  | .count value => toString value

/-- An event as a log line. -/
def eventLine (e : Event) : String :=
  let fields := (("message", Datum.text e.message) :: e.fields).map fun (name, datum) =>
    quotedText name ++ ":" ++ datumText datum
  s!"\x7b\"level\":{quotedText e.level.label},\"fields\":\x7b" ++ ",".intercalate fields ++
    "\x7d\x7d"

/-- The natural number nearest to a quotient; the even one of two that are as near. -/
def nearest (dividend divisor : Nat) : Nat :=
  let twice := 2 * (dividend % divisor)
  let below := dividend / divisor
  if twice < divisor ∨ twice = divisor ∧ below % 2 = 0 then below else below + 1

/-- The natural number nearest to a multiple of a float that is not negative. The float is a whole
number of 53 bits times a power of two. -/
def scaled (factor : Nat) (x : Float) : Nat :=
  let (mantissa, exponent) := x.frExp
  let whole := (mantissa.scaleB 53).toUInt64.toNat * factor
  match exponent - 53 with
  | .ofNat up     => whole <<< up
  | .negSucc down => nearest whole (1 <<< (down + 1))

/-- The lines about the timing of a run of some works. -/
def timing (applied : Nat) (e : Elapsed) : List String :=
  let hundredths := scaled 100 e.toFloat
  let places := toString (hundredths % 100)
  let places := if places.length < 2 then "0" ++ places else places
  [s!"  Elapsed: {hundredths / 100}.{places}s",
    s!"  Rate: {scaled 1 (rate (.ofNat applied) e)} works/sec"]

/-- The variables of a trial that are set. -/
def readEnvironment : IO Environment := do
  let values ← TrialSettings.variableNames.mapM fun name => return (name, ← IO.getEnv name)
  return fun name => (values.lookup name).join

end ShardedIndex.Trial

open ShardedIndex

def main : IO UInt32 := do
  let config := TrialSettings.ofEnvironment (← Trial.readEnvironment)
  let before ← IO.monoNanosNow
  let outcome ← IO.lazyPure fun _ => Trial.run config
  let applied := match outcome.result with
    | .ok report => report.applied
    | .error _   => 0
  let nanos := (← IO.monoNanosNow) - before
  let elapsed : Elapsed := ⟨.ofNat (nanos / 1000000000), .ofNat (nanos % 1000000000)⟩
  for event in outcome.events do
    IO.println (Trial.eventLine event)
  for line in Trial.lines outcome (Trial.timing applied elapsed) do
    IO.println line
  return Trial.exitCode outcome
