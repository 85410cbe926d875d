import DeviceHub.Json.Value

/-!
# Tables in TOML

A document builds its tables bit by bit: an entry with a dotted key may add to a table that only dotted
keys have made, and a header may open a table that so far only longer headers have implied. Whatever
was written once may not be written again.

* `putUnder_present`: a key that is there already refuses every further entry.
-/
namespace DeviceHub.Toml

/-- How a table came to be. -/
inductive TableKind where
  /-- It stands in front of the last key of a header. -/
  | implied
  /-- It stands in front of the last key of an entry. -/
  | dotted
  /-- It has a header of its own. -/
  | headed
  deriving DecidableEq

/-- What stands under a key while a document is read. -/
inductive Node where
  | value (v : Json)
  | table (kind : TableKind) (entries : List (String × Node))
  /-- Tables that share a header, the latest first. -/
  | series (tables : List (List (String × Node)))

/-- The entries of a table. -/
abbrev Entries := Dict Node

/-- Changes the table that some keys of headers lead to. On the way tables are made where there are
none, and of a series the latest table is meant. -/
def atPath? (change : Entries → Option Entries) : List String → Entries → Option Entries
  | [], entries => change entries
  | key :: keys, entries =>
    match entries.get? key with
    | none => do
      let inner ← atPath? change keys []
      some (entries.insert key (.table .implied inner))
    | some (.table kind inner) => do
      let inner ← atPath? change keys inner
      some (entries.insert key (.table kind inner))
    | some (.series (latest :: others)) => do
      let latest ← atPath? change keys latest
      some (entries.insert key (.series (latest :: others)))
    | some _ => none

/-- Opens a table by its header. -/
def openTable? (key : String) (entries : Entries) : Option Entries :=
  match entries.get? key with
  | none => some (entries.insert key (.table .headed []))
  | some (.table .implied inner) => some (entries.insert key (.table .headed inner))
  | some _ => none

/-- Opens the next table of a series. -/
def openNext? (key : String) (entries : Entries) : Option Entries :=
  match entries.get? key with
  | none => some (entries.insert key (.series [[]]))
  | some (.series tables) => some (entries.insert key (.series ([] :: tables)))
  | some _ => none

/-- Puts an entry in behind the keys in front of its own; `isOpen` says whether the table reached so
far takes entries. -/
def putUnder? (key : String) (node : Node) : List String → Bool → Entries → Option Entries
  | [], isOpen, entries =>
    if isOpen ∧ (entries.get? key).isNone then some (entries.insert key node) else none
  | k :: keys, _, entries =>
    match entries.get? k with
    | none => do
      let inner ← putUnder? key node keys true []
      some (entries.insert k (.table .dotted inner))
    | some (.table .headed _) => none
    | some (.table kind inner) => do
      let inner ← putUnder? key node keys (kind = .dotted) inner
      some (entries.insert k (.table kind inner))
    | some (.series (latest :: others)) => do
      let latest ← putUnder? key node keys false latest
      some (entries.insert k (.series (latest :: others)))
    | some _ => none

/-- Puts in the entry of a dotted key. -/
def put? (keys : List String) (node : Node) (entries : Entries) : Option Entries :=
  match keys.getLast? with
  | some key => putUnder? key node keys.dropLast true entries
  | none => none

mutual

/-- What a node stands for. -/
def Node.json : Node → Json
  | .value v => v
  | .table _ entries => .object (membersOf entries)
  | .series tables => .array (itemsOf tables).reverse

def membersOf : List (String × Node) → List (String × Json)
  | [] => []
  | (key, node) :: rest => (key, node.json) :: membersOf rest

def itemsOf : List (List (String × Node)) → List Json
  | [] => []
  | entries :: rest => .object (membersOf entries) :: itemsOf rest

end

theorem putUnder_present (key : String) (node : Node) (isOpen : Bool) (entries : Entries)
    (h : (entries.get? key).isSome) : putUnder? key node [] isOpen entries = none := by
  have h' : (entries.get? key).isNone = false := by
    cases he : entries.get? key <;> simp_all
  simp [putUnder?, h']

end DeviceHub.Toml
