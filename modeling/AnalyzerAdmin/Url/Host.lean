import AnalyzerAdmin.DomainName.Basic
import AnalyzerAdmin.Text.Utf8
import AnalyzerAdmin.Url.Ipv4
import AnalyzerAdmin.Url.Ipv6
import AnalyzerAdmin.Url.Percent

/-!
# Hosts

The host of a URL is an address or a domain name. Where the scheme does not say which names there
are, it is taken as it is written.
-/

namespace AnalyzerAdmin

inductive UrlFault
  | noScheme
  | emptyHost
  | badName
  | badIpv4
  | badIpv6
  | badCharacter
  | badPort
deriving DecidableEq, Repr

def UrlFault.message : UrlFault → String
  | .noScheme => "relative URL without a base"
  | .emptyHost => "empty host"
  | .badName => "invalid international domain name"
  | .badIpv4 => "invalid IPv4 address"
  | .badIpv6 => "invalid IPv6 address"
  | .badCharacter => "invalid domain character"
  | .badPort => "invalid port number"

inductive Host
  | name (text : String)
  | ipv4 (address : Ipv4)
  | ipv6 (address : Ipv6)
  | verbatim (text : String)
deriving DecidableEq, Repr

namespace Host

def render : Host → String
  | .name text => text
  | .ipv4 address => address.render
  | .ipv6 address => "[" ++ address.render ++ "]"
  | .verbatim text => text

def readBracketed (cs : List Char) : Except UrlFault Host :=
  match if cs.getLast? = some ']' then Ipv6.read? cs.dropLast else none with
  | some address => .ok (.ipv6 address)
  | none => .error .badIpv6

def ofName (text : List Char) : Except UrlFault Host :=
  if text = [] then .error .emptyHost
  else if Ipv4.isDue text then
    match Ipv4.read? text with
    | some address => .ok (.ipv4 address)
    | none => .error .badIpv4
  else .ok (.name (String.ofList text))

def read : List Char → Except UrlFault Host
  | '[' :: cs => readBracketed cs
  | cs =>
    match DomainName.ascii? (Text.Utf8.decodeFrom none (Percent.decode cs)) with
    | some ascii => ofName ascii
    | none => .error .badName

def isForbidden (c : Char) : Bool :=
  ['\x00', '\t', '\n', '\r', ' ', '#', '/', ':', '<', '>', '?', '@', '[', '\\', ']', '^',
    '|'].contains c

def readVerbatim : List Char → Except UrlFault Host
  | '[' :: cs => readBracketed cs
  | cs =>
    if cs.any isForbidden then .error .badCharacter
    else .ok (.verbatim (String.ofList (Percent.encode Percent.isControl cs)))

end Host

end AnalyzerAdmin
