/-
This file models network addresses: IP addresses with their text, the host and port of a
text, address ranges, and the question whether two peers are on one network.

An IPv4 address in IPv6 form is the IPv4 address, as it is for `IP.Equal`, `IP.String`
and `To4`; a remote address is a pair of an IP and a port. The peer map keeps remote
addresses as the text of such a pair and parses it back; here it keeps the pair.
-/

import Mathlib.Algebra.Ring.Nat
import Mathlib.Data.List.Basic

namespace SovaDesk.Signal

/-! ### IP addresses -/

inductive IP
  | v4 (address : BitVec 32)
  | v6 (address : BitVec 128)
  deriving DecidableEq

namespace IP

/-- The address with the given four octets. -/
def ofOctets (a b c d : Nat) : IP := .v4 (BitVec.ofNat 32 (((a * 256 + b) * 256 + c) * 256 + d))

/-- The parts of an address from the highest, each of the given width in bits. -/
def parts (count width address : Nat) : List Nat :=
  (List.range count).map fun i => address / 2 ^ (width * (count - 1 - i)) % 2 ^ width

/-- The first longest run of zeros in a list: its start and its length. -/
def longestZeroRun (groups : List Nat) : Nat × Nat :=
  (List.range groups.length).foldl
    (fun best start =>
      let length := ((groups.drop start).takeWhile (· == 0)).length
      if length > best.2 then (start, length) else best)
    (0, 0)

def hexGroup (group : Nat) : String := String.ofList (Nat.toDigits 16 group)

/-- `IP.String`: dotted decimals, or hexadecimal groups with the longest run of at least two zero
groups left out. -/
def text : IP → String
  | .v4 address => ".".intercalate ((parts 4 8 address.toNat).map toString)
  | .v6 address =>
    let groups := parts 8 16 address.toNat
    let run := longestZeroRun groups
    if run.2 ≤ 1 then ":".intercalate (groups.map hexGroup)
    else
      ":".intercalate ((groups.take run.1).map hexGroup) ++ "::" ++
        ":".intercalate ((groups.drop (run.1 + run.2)).map hexGroup)

def isLoopback : IP → Bool
  | .v4 address => address.toNat / 2 ^ 24 == 127
  | .v6 address => address.toNat == 1

def isUnspecified : IP → Bool
  | .v4 address => address.toNat == 0
  | .v6 address => address.toNat == 0

def isLinkLocalUnicast : IP → Bool
  | .v4 address => address.toNat / 2 ^ 16 == 169 * 256 + 254
  | .v6 address => address.toNat / 2 ^ 118 == 0xfe80 / 2 ^ 6

end IP

/-- A range of addresses: those that agree with a base in the leading bits. -/
structure Network where
  base : IP
  bits : Nat
  deriving DecidableEq

def Network.contains (network : Network) (ip : IP) : Bool :=
  match network.base, ip with
  | .v4 base, .v4 address =>
    base.toNat / 2 ^ (32 - network.bits) == address.toNat / 2 ^ (32 - network.bits)
  | .v6 base, .v6 address =>
    base.toNat / 2 ^ (128 - network.bits) == address.toNat / 2 ^ (128 - network.bits)
  | _, _ => false

def privateRanges : List Network :=
  [⟨.ofOctets 10 0 0 0, 8⟩, ⟨.ofOctets 172 16 0 0, 12⟩, ⟨.ofOctets 192 168 0 0, 16⟩,
    ⟨.v6 (BitVec.ofNat 128 (0xfc * 2 ^ 120)), 7⟩]

/-- `isPrivateIP`: an address in a private range, or a loopback or link-local one. -/
def isPrivateIP (ip : IP) : Bool :=
  privateRanges.any (·.contains ip) || ip.isLoopback || ip.isLinkLocalUnicast

/-! ### Remote addresses -/

structure Addr where
  ip : IP
  port : Nat
  deriving DecidableEq

/-- `net.JoinHostPort`: a host with a colon is put in brackets. -/
def joinHostPort (host port : String) : String :=
  if host.toList.contains ':' then "[" ++ host ++ "]:" ++ port
  else host ++ ":" ++ port

def Addr.text (addr : Addr) : String := joinHostPort addr.ip.text (toString addr.port)

/-- `net.SplitHostPort` on the characters of a text. -/
def splitHostPort (text : List Char) : Option (List Char × List Char) :=
  if !text.contains ':' then none
  else
    let port := (text.reverse.takeWhile (· != ':')).reverse
    let colon := text.length - port.length - 1
    if text.head? = some '[' then
      let close := text.idxOf ']'
      if close + 1 ≠ colon then none
      else if (text.drop 1).contains '[' || (text.drop (close + 1)).contains ']' then none
      else some ((text.take close).drop 1, port)
    else
      let host := text.take colon
      if host.contains ':' || text.contains '[' || text.contains ']' then none
      else some (host, port)

/-- `peerIPMatches`: a client's host is the stored one, which may carry a port. -/
def peerIPMatches (clientHost storedIP : String) : Bool :=
  if clientHost = "" ∨ storedIP = "" then false
  else
    let storedHost :=
      match splitHostPort storedIP.toList with
      | some (host, _) => if host = [] then storedIP.toList else host
      | none => storedIP.toList
    clientHost.toList == storedHost || (clientHost ++ ":").toList.isPrefixOf storedIP.toList

/-! ### One network -/

/-- `isSameNetwork`: the same IP, a loopback and a private one, or private IPv4 addresses that agree
in their first three octets. -/
def isSameNetwork (a b : Addr) : Bool :=
  if a.ip = b.ip then true
  else if a.ip.isLoopback && isPrivateIP b.ip then true
  else if b.ip.isLoopback && isPrivateIP a.ip then true
  else
    match a.ip, b.ip with
    | .v4 x, .v4 y =>
      isPrivateIP a.ip && isPrivateIP b.ip && x.toNat / 2 ^ 8 == y.toNat / 2 ^ 8
    | _, _ => false

/-- `isSamePublicIP`: both peers come from one address that is not private. -/
def isSamePublicIP (a b : Addr) : Bool :=
  a.ip == b.ip && !isPrivateIP a.ip && !a.ip.isLoopback && !a.ip.isUnspecified

/-- `isLANRelayReachableFromPeers`: some peer shares the relay's private subnet. -/
def isLANRelayReachableFromPeers (lanIP : IP) (peers : List Addr) : Bool :=
  match lanIP with
  | .v6 _ => false
  | .v4 lan =>
    isPrivateIP lanIP && peers.any fun peer =>
      match peer.ip with
      | .v6 _ => false
      | .v4 address =>
        !peer.ip.isLoopback && isPrivateIP peer.ip &&
          (lan == address || lan.toNat / 2 ^ 8 == address.toNat / 2 ^ 8)

/-! ### Blocklist -/

/-- The blocked IPs by their text, the blocked ranges, and the blocked device IDs. -/
structure Blocklist where
  ips : List String
  networks : List Network
  ids : List String

def Blocklist.isIPBlocked (blocklist : Blocklist) (ip : IP) : Bool :=
  blocklist.ips.contains ip.text || blocklist.networks.any (·.contains ip)

def Blocklist.isIDBlocked (blocklist : Blocklist) (id : String) : Bool := blocklist.ids.contains id

example : (IP.v6 (BitVec.ofNat 128 1)).text = "::1" := by decide
example : (Addr.mk (.ofOctets 10 0 0 7) 4000).text = "10.0.0.7:4000" := by decide

end SovaDesk.Signal
