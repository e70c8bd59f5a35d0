import Lanewise.Text.Numeral

/-!
# Addresses to listen at

An address is a host and a port with a colon between them; a host that contains colons stands in
brackets.

## Main definitions

* `Cli.splitAddress`: the host and the port of an address.
* `Cli.checkAddress`: what is wrong with an address, if anything is.
-/

namespace Lanewise.Cli

/-- Why an address cannot be used. -/
inductive AddressError
  | form (address why : String)
  | unknownPort (name : String)
  | portRange (port : String)
deriving DecidableEq, Repr

/-- The wording of an error. -/
def AddressError.message : AddressError → String
  | form address why => "listen tcp: address " ++ address ++ ": " ++ why
  | unknownPort name => "listen tcp: lookup tcp/" ++ name ++ ": unknown port"
  | portRange port => "listen tcp: address " ++ port ++ ": invalid port"

/-- The host and the port of an address. -/
def splitAddress (address : String) : Except AddressError (String × String) :=
  let fail (why : String) := .error (.form address why)
  let cs := address.toList
  let port := (cs.reverse.takeWhile (· != ':')).reverse
  if !cs.contains ':' then fail "missing port in address"
  else match cs with
    | '[' :: rest =>
      let host := rest.takeWhile (· != ']')
      match rest.drop host.length with
      | [] => fail "missing ']' in address"
      | [_] => fail "missing port in address"
      | _ :: c :: tail =>
        if c != ':' then fail "missing port in address"
        else if tail.contains ':' then fail "too many colons in address"
        else if host.contains '[' || tail.contains '[' then fail "unexpected '[' in address"
        else if tail.contains ']' then fail "unexpected ']' in address"
        else .ok (String.ofList host, String.ofList port)
    | cs =>
      let host := cs.take (cs.length - port.length - 1)
      if host.contains ':' then fail "too many colons in address"
      else if cs.contains '[' then fail "unexpected '[' in address"
      else if cs.contains ']' then fail "unexpected ']' in address"
      else .ok (String.ofList host, String.ofList port)

/-- What is wrong with an address. No address at all leaves the choice to the system. -/
def checkAddress (address : String) : Except AddressError Unit := do
  if address ≠ "" then
    let (_, port) ← splitAddress address
    match Numeral.decimal? port.toList with
    | some n => if n < 0 ∨ 65535 < n then throw (.portRange port)
    | none => if port ≠ "" then throw (.unknownPort port)

end Lanewise.Cli
