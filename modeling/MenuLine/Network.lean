import MenuLine.Pipeline
import MenuLine.Stream.Relay

/-!
# Networks

A pipeline at work. The head and the filters run side by side, a relay in
front of each filter, and take their steps in any order: `Network.Step` is one
step of one of them. `Pipeline.run` takes the steps in one particular order.
-/

namespace MenuLine

/-- Where a program stands: in a burst of work, or at its end. -/
inductive Activity (σ ρ : Type) where
  | working (burst : Burst σ ρ)
  | ended (result : ρ)

/-- Filters, each with the relay that it reads from, and what the last one
writes to. -/
inductive Chain (τ : Type) : Type 1 where
  | target (sink : τ)
  | stage (p : Program) (relay : Relay) (activity : Activity p.State Ending) (below : Chain τ)

namespace Chain

variable {τ : Type}

def start (sink : τ) : List Program → Chain τ
  | [] => target sink
  | p :: ps => stage p .start (.working p.start) (start sink ps)

def sink : Chain τ → τ
  | target sink => sink
  | stage _ _ _ below => below.sink

/-- Whoever writes to the chain is done with it. A target has no end to be
dropped. -/
def Released : Chain τ → Prop
  | target _ => True
  | stage _ relay _ _ => relay.writerOpen = false

/-- Every filter has come to its end and let go of both its relays. -/
def Finished : Chain τ → Prop
  | target _ => True
  | stage _ relay activity below =>
    (∃ ending, activity = .ended ending) ∧ relay.readerOpen = false ∧ below.Released ∧
      below.Finished

/-- How the filters ended that have, the nearest to the head first. -/
def endings : Chain τ → List Ending
  | target _ => []
  | stage _ _ (.ended ending) below => ending :: below.endings
  | stage _ _ (.working _) below => below.endings

def dropWriter? : Chain τ → Option (Chain τ)
  | target _ => none
  | stage p relay activity below =>
    if relay.writerOpen then some (stage p relay.dropWriter activity below) else none

variable [Sink τ]

/-- Writes to the relay in front of the chain, or to the target; gives `none`
where the writer has to wait. -/
def write? : Chain τ → Bytes → Option (Option IoError × Chain τ)
  | target sink, chunk => some ((Sink.write sink chunk).1, target (Sink.write sink chunk).2)
  | stage p relay activity below, chunk =>
    (relay.write? chunk).map fun
      | (.ok _, relay) => (none, stage p relay activity below)
      | (.error e, relay) => (some e, stage p relay activity below)

/-- A relay has nothing to flush. -/
def flush : Chain τ → Option IoError × Chain τ
  | target sink => ((Sink.flush sink).1, target (Sink.flush sink).2)
  | stage p relay activity below => (none, stage p relay activity below)

/-- A filter that returns flushes what it writes to, and a failure to do so
is its own. -/
def conclude (ending : Ending) (below : Chain τ) : Ending × Chain τ :=
  match ending with
  | .returned =>
    match below.flush with
    | (none, below) => (.returned, below)
    | (some e, below) => (.failed e, below)
  | ending => (ending, below)

/-- One step of one filter. A filter at its end lets go of the relay that it
reads from and then of the one that it writes to. -/
inductive Step : Chain τ → Chain τ → Prop where
  | write {p : Program} {relay : Relay} {chunk : Bytes}
      {next : Option IoError → Burst p.State Ending} {below after : Chain τ} {e : Option IoError}
      (h : below.write? chunk = some (e, after)) :
      Step (stage p relay (.working (.write chunk next)) below)
        (stage p relay (.working (next e)) after)
  | read {p : Program} {relay after : Relay} {state : p.State} {size : Nat} {found : Bytes}
      {below : Chain τ} (hsize : 0 < size) (hfound : found ≠ [])
      (h : relay.read? size = some (found, after)) :
      Step (stage p relay (.working (.ask state)) below)
        (stage p after (.working (p.feed state found)) below)
  | readEnd {p : Program} {relay after : Relay} {state : p.State} {size : Nat}
      {below : Chain τ} (hsize : 0 < size) (h : relay.read? size = some ([], after)) :
      Step (stage p relay (.working (.ask state)) below)
        (stage p after (.working (p.finish state).widen) below)
  | stop {p : Program} {relay : Relay} {ending : Ending} {below : Chain τ} :
      Step (stage p relay (.working (.stop ending)) below)
        (stage p relay (.ended (conclude ending below).1) (conclude ending below).2)
  | dropReader {p : Program} {relay : Relay} {ending : Ending} {below : Chain τ}
      (h : relay.readerOpen = true) :
      Step (stage p relay (.ended ending) below) (stage p relay.dropReader (.ended ending) below)
  | dropWriter {p : Program} {relay : Relay} {ending : Ending} {below after : Chain τ}
      (hreader : relay.readerOpen = false) (h : below.dropWriter? = some after) :
      Step (stage p relay (.ended ending) below) (stage p relay (.ended ending) after)
  | deeper {p : Program} {relay : Relay} {activity : Activity p.State Ending}
      {below after : Chain τ} (h : Step below after) :
      Step (stage p relay activity below) (stage p relay activity after)

end Chain

structure Network (α τ : Type) where
  head : Activity Empty (HeadResult α)
  chain : Chain τ

namespace Network

variable {α τ : Type}

def start (ps : List Program) (target : τ) (head : Head α) : Network α τ :=
  ⟨.working head, .start target ps⟩

def Finished (n : Network α τ) : Prop :=
  (∃ result, n.head = .ended result) ∧ n.chain.Released ∧ n.chain.Finished

variable [Sink τ]

/-- A head that has not failed flushes what it writes to. -/
def conclude (result : HeadResult α) (chain : Chain τ) : HeadResult α × Chain τ :=
  match result.failure with
  | some _ => (result, chain)
  | none => (⟨result.value, chain.flush.1⟩, chain.flush.2)

inductive Step : Network α τ → Network α τ → Prop where
  | write {chunk : Bytes} {next : Option IoError → Head α} {chain after : Chain τ}
      {e : Option IoError} (h : chain.write? chunk = some (e, after)) :
      Step ⟨.working (.write chunk next), chain⟩ ⟨.working (next e), after⟩
  | stop {result : HeadResult α} {chain : Chain τ} :
      Step ⟨.working (.stop result), chain⟩
        ⟨.ended (conclude result chain).1, (conclude result chain).2⟩
  | leave {result : HeadResult α} {chain after : Chain τ} (h : chain.dropWriter? = some after) :
      Step ⟨.ended result, chain⟩ ⟨.ended result, after⟩
  | chain {head : Activity Empty (HeadResult α)} {chain after : Chain τ}
      (h : Chain.Step chain after) : Step ⟨head, chain⟩ ⟨head, after⟩

end Network

end MenuLine
