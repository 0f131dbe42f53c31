import SwitchLab.Shown
/-!
The databases of a virtual switch.
-/
namespace SwitchLab

inductive StoreName where
  /-- Application state produced from configuration. -/
  | appl
  /-- Objects of the forwarding hardware, derived from it. -/
  | asic
  | counters
  | config
  | flex
  | state
  deriving DecidableEq, Repr

namespace StoreName

def all : List StoreName := [appl, asic, counters, config, flex, state]

/-- The number under which the server knows the database. -/
def index : StoreName → Nat
  | appl => 0
  | asic => 1
  | counters => 2
  | config => 4
  | flex => 5
  | state => 6

/-- What stands between table and key in a raw key. -/
def separator : StoreName → Char
  | appl | asic | counters => ':'
  | config | flex | state => '|'

def name : StoreName → String
  | appl => "APPL_DB"
  | asic => "ASIC_DB"
  | counters => "COUNTERS_DB"
  | config => "CONFIG_DB"
  | flex => "FLEX_COUNTER_DB"
  | state => "STATE_DB"

instance : Shown StoreName :=
  ⟨fun
    | appl => "Appl"
    | asic => "Asic"
    | counters => "Counters"
    | config => "Config"
    | flex => "Flex"
    | state => "State"⟩

/-- The raw key of a record. -/
def tableKey (s : StoreName) (table key : String) : String :=
  table ++ s.separator.toString ++ key

end StoreName

/-- One database of the switch whose server listens on `socket`. -/
structure Database where
  socket : String
  store : StoreName
  deriving DecidableEq, Repr

end SwitchLab
