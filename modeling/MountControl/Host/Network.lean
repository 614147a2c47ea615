/-
  MountControl — network addresses.

  A `Network` tells which addresses are taken and whether connections reach
  their hosts.  There is nobody who could be asked for names: a host is a
  numeric address or the name of the machine itself.
-/
import MountControl.Host.IoError
import MountControl.Net.Ipv6

namespace MountControl.Host

/-- What is known of the network. -/
structure Network where
  /-- Do connections reach any host? -/
  reachable : Bool := true
  /-- The addresses and ports that are listened on. -/
  taken : List (String × Nat) := []
  deriving DecidableEq, Repr

/-- A number in the base that its first characters name. -/
def looseNumber? : List Char → Option Nat
  | '0' :: 'x' :: digits => Text.Numeral.value? 16 digits
  | '0' :: 'X' :: digits => Text.Numeral.value? 16 digits
  | '0' :: digits => Text.Numeral.value? 8 ('0' :: digits)
  | digits => Text.Numeral.value? 10 digits

/-- The number of an address of one to four numbers, the last of which fills what the others
    leave. -/
def looseAddress? (text : List Char) : Option Nat := do
  let numbers ← (Text.fields '.' text).mapM looseNumber?
  let last ← numbers.getLast?
  let front := numbers.dropLast
  if front.length ≤ 3 ∧ front.all (· < 256) ∧ last < Nat.pow 256 (4 - front.length) then
    some (front.foldl (fun n octet => n * 256 + octet) 0 * Nat.pow 256 (4 - front.length) + last)
  else none

/-- The four octets of an address. -/
def octetText (address : Nat) : String :=
  String.ofList (['.'].intercalate ([3, 2, 1, 0].map fun place =>
    Text.Numeral.decimal (address / Nat.pow 256 place % 256)))

/-- The address of a host. -/
def Network.resolve (_ : Network) (host : String) : Except IoError String :=
  match Net.Ipv6.parse? host.toList, looseAddress? host.toList with
  | some numbers, _ => .ok (String.ofList (Net.Ipv6.write numbers))
  | none, some address => .ok (octetText address)
  | none, none =>
    if '\x00' ∈ host.toList then
      .error (.described .invalidInput "file name contained an unexpected NUL byte")
    else if host = "localhost" then .ok "127.0.0.1"
    else
      .error (.described .uncategorized
        "failed to lookup address information: Temporary failure in name resolution")

/-- Listens on an address.  The machine has addresses of four octets only. -/
def Network.listen (network : Network) (address : String) (port : Nat) :
    Except IoError Network :=
  if ':' ∈ address.toList ∧ address ≠ "::" then .error (.system 99)
  else if (address, port) ∈ network.taken then .error (.system 98)
  else .ok { network with taken := network.taken ++ [(address, port)] }

/-- Connects to an address, waiting for some milliseconds at most; that may not be none. -/
def Network.connect (network : Network) (address : String) (port timeout : Nat) :
    Except IoError Unit :=
  if !network.reachable then .error (.system 101)
  else if timeout = 0 then
    .error (.described .invalidInput "cannot set a 0 duration timeout")
  else if (address, port) ∈ network.taken then .ok ()
  else .error (.system 111)

end MountControl.Host
