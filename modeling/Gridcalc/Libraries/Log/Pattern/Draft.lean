import Std.Data.HashMap
import Gridcalc.Libraries.Log.Pattern.Encoding
import Gridcalc.Libraries.Log.Pattern.Shape

/-! # Drafts of automata

An automaton is drafted part by part, to see how large it becomes. It has states, numbered in
the order in which they are added, ways between them on which a byte is read, and *forks*:
states with ways on which nothing is read.

Copies of a part are drafted one by one, because the states of a set of characters are shared
by a table, and which of them the table finds depends on their numbers. -/

namespace Gridcalc.Log.Pattern

/-- How many bytes a state takes up, without the ways that lead on from it. -/
def stateSize : Nat := 32

/-- How many bytes a way takes up on which a byte is read. A state with one single byte to
read needs no room for it. -/
def waySize : Nat := 8

/-- How many bytes a way from a fork takes up. -/
def forkSize : Nat := 4

/-- How many bytes an automaton may take up. -/
def roomLimit : Nat := 10485760

/-- An automaton, as far as its size goes. -/
structure Draft where
  states : Nat := 0
  /-- The bytes that ways take up. -/
  ways : Nat := 0
  /-- Whether the last part ends in a fork, to which a way is added if the part goes on. -/
  endsInFork : Bool := false

namespace Draft

/-- How many bytes an automaton takes up. -/
def size (draft : Draft) : Nat := stateSize * draft.states + draft.ways

/-- Whether an automaton is not too large. -/
def fits (draft : Draft) : Bool := draft.size ≤ roomLimit

/-- A draft with so many states more. -/
def addStates (count : Nat) (draft : Draft) : Draft :=
  { draft with states := draft.states + count, endsInFork := false }

/-- A draft with one state more. -/
def addState (draft : Draft) : Draft := draft.addStates 1

/-- A draft with so many ways more on which a byte is read. -/
def addWays (count : Nat) (draft : Draft) : Draft :=
  { draft with ways := draft.ways + waySize * count }

/-- A draft with so many ways more from forks. -/
def addForks (count : Nat) (draft : Draft) : Draft :=
  { draft with ways := draft.ways + forkSize * count }

/-- A draft in which the last part goes on. -/
def onward (draft : Draft) : Draft :=
  { draft.addForks (if draft.endsInFork then 1 else 0) with endsInFork := false }

/-- A draft whose last part ends in a fork. -/
def toFork (draft : Draft) : Draft := { draft with endsInFork := true }

/-! ### Copies and branches -/

/-- A draft with so many copies of a part, unless it becomes too large. -/
def addCopies (part : Draft → Draft) : Nat → Draft → Draft
  | 0, draft => draft
  | count + 1, draft => if draft.fits then addCopies part count (part draft) else draft

/-- A draft with parts in a row. Without any there is a state that leads on. -/
def addRow (parts : List (Draft → Draft)) (draft : Draft) : Draft :=
  match parts with
  | [] => draft.addState
  | first :: rest => rest.foldl (fun draft part => part draft.onward) (first draft)

/-- A draft with a part so many times in a row. -/
def addTimes (part : Draft → Draft) (count : Nat) (draft : Draft) : Draft :=
  match count with
  | 0 => draft.addState
  | count + 1 => addCopies (fun draft => part draft.onward) count (part draft)

/-- A draft with a part that is repeated. Behind a part that consumes, a single fork leads
back and onward; a part that can match the empty text needs one more fork in front. -/
def addRepeated (repeats : Repeats) (consumes : Bool) (part : Draft → Draft)
    (draft : Draft) : Draft :=
  match repeats.least, repeats.most with
  | 0, some 1 => (part draft.addState).onward.addState.addForks 2
  | 0, none =>
    if consumes then ((part draft.addState).onward.addForks 1).toFork
    else ((part draft).onward.addStates 3).addForks 4
  | least, none => ((draft.addTimes part least).onward.addState.addForks 1).toFork
  | least, some most =>
    let draft := draft.addTimes part least
    if most ≤ least then draft
    else
      let optional := fun (draft : Draft) => (part draft.addState).onward.addForks 2
      addCopies optional (most - least) draft.onward.addState

/-- A draft with a choice between branches, which meet again. The fork and the state where they
meet are added behind the second branch. -/
def addBranches (branches : List (Draft → Draft)) (draft : Draft) : Draft :=
  let add := fun (draft : Draft) (branch : Draft → Draft) => (branch draft).onward.addForks 1
  (branches.drop 2).foldl add (((branches.take 2).foldl add draft).addStates 2)

/-! ### Texts -/

/-- Texts, divided by the empty ones. Empty texts in front count as one. -/
def stretches (texts : List (List UInt8)) : List (List (List UInt8)) :=
  let rest := texts.dropWhile List.isEmpty
  divide (if rest.length < texts.length then [] :: rest else rest)
where
  /-- Texts, divided by the empty ones. -/
  divide : List (List UInt8) → List (List (List UInt8))
    | [] => [[]]
    | text :: texts =>
      match text, divide texts with
      | [], found => [] :: found
      | text, stretch :: found => (text :: stretch) :: found
      | text, [] => [[text]]

/-- A draft with the states that lead through texts, at most so many bytes of them. Those that
begin alike are read together, but not across a text that ends there. -/
def addTails : Nat → List (List UInt8) → Draft → Draft
  | 0, _, draft => draft
  | depth + 1, texts, draft =>
    if texts.all List.isEmpty then draft
    else
      let stretches := stretches texts
      let draft := stretches.foldl (fun (draft : Draft) stretch =>
        let heads := (stretch.filterMap List.head?).eraseDups
        let draft := heads.foldl (fun (draft : Draft) head =>
          let tails := stretch.filterMap fun text =>
            if text.head? = some head then some text.tail else none
          addTails depth tails draft) draft
        match heads.length with
        | 0 => draft
        | 1 => draft.addState.addForks 1
        | count => (draft.addState.addWays count).addForks 1) draft
      draft.addState.addForks (stretches.length - 1)

/-- A draft with a choice between texts. -/
def addTexts (direction : Direction) (texts : List (List Char)) (draft : Draft) : Draft :=
  let texts := texts.map fun text =>
    direction.arrange (String.ofList text).toUTF8.data.toList
  let depth := texts.foldl (fun longest text => Nat.max longest text.length) 0
  addTails depth texts draft.addState

end Draft

/-! ### Sets of characters -/

/-- States that can be found again by a key. A state has one of so many places in the table,
and takes it from the one that had it. -/
structure StateTable where
  places : Nat
  entries : Std.HashMap Nat (List Nat × Nat) := {}

namespace StateTable

/-- The place of a key, in which each of its numbers is mixed into a word. -/
def place (table : StateTable) (key : List Nat) : Nat :=
  let mix (word : UInt64) (number : Nat) : UInt64 :=
    (word ^^^ number.toUInt64) * 1099511628211
  (key.foldl mix 14695981039346656037).toNat % table.places

/-- The state with a key, if it is still in the table. -/
def find? (table : StateTable) (key : List Nat) : Option Nat :=
  match table.entries[table.place key]? with
  | some (found, state) => if found = key then some state else none
  | none => none

/-- A table with a state more. -/
def insert (table : StateTable) (key : List Nat) (state : Nat) : StateTable :=
  { table with entries := table.entries.insert (table.place key) (key, state) }

end StateTable

/-- A draft to which a set of characters is being added. -/
structure SetDraft where
  draft : Draft
  table : StateTable

namespace SetDraft

/-- The number of the state with a key, which is added with so many ways if it is not in the
table. -/
def state (key : List Nat) (ways : Nat) (work : SetDraft) : Nat × SetDraft :=
  match work.table.find? key with
  | some state => (state, work)
  | none =>
    let state := work.draft.states
    let draft := work.draft.addState.addWays ways
    (state, { draft, table := work.table.insert key state })

/-- The number of the state from which sequences of at most so many byte ranges are read, up to
a target. -/
def sequences (target : Nat) : Nat → List (List ByteRange) → SetDraft → Nat × SetDraft
  | 0, _, work => (target, work)
  | depth + 1, rows, work =>
    match byHead rows with
    | [] => (target, work)
    | groups =>
      let (key, work) := groups.foldl (fun (key, work) (range, tails) =>
        let (next, work) := sequences target depth tails work
        (key ++ [range.1, range.2, next], work)) (([] : List Nat), work)
      work.state key groups.length

/-- A draft in which a sequence of byte ranges is read backward, from a fork to a target. -/
def addReversed (target : Nat) (work : SetDraft) (sequence : List ByteRange) : SetDraft :=
  let (_, work) := sequence.foldl (fun (next, work) range =>
    SetDraft.state [next, range.1, range.2] 0 work) (target, work)
  { work with draft := work.draft.addForks 1 }

end SetDraft

/-- A draft with the states of one of the characters in sorted ranges, unless it is too large
already. -/
def Draft.addSet (direction : Direction) (ranges : List (Nat × Nat)) (draft : Draft) : Draft :=
  if !draft.fits then draft
  else if ranges.all (·.2 < 128) then (draft.addStates 2).addWays ranges.length
  else
    let rows := ranges.flatMap encodings
    match direction with
    | .forward =>
      let work : SetDraft := ⟨draft.addState, { places := 10000 }⟩
      (work.sequences draft.states 4 rows).2.draft
    | .backward =>
      let work : SetDraft := ⟨draft.addStates 2, { places := 1000 }⟩
      (rows.foldl (SetDraft.addReversed (draft.states + 1)) work).draft

end Gridcalc.Log.Pattern
