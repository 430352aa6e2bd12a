import WarpStream.Protocol
import WarpStream.TextBytes

set_option autoImplicit false

namespace WarpStream

open GoText TextBytes

-- ParseDuration, and the whole seconds that Seconds yields, go through floating
-- point and are parameters.
structure TimeLibrary where
  parseDuration : String → Option Int64
  wholeSeconds : Int64 → UInt64

def parseDurationSec (time : TimeLibrary) (text : String) : Option Duration :=
  if text = "" then none
  else
    match time.parseDuration (text ++ "s") with
    | some duration => some ⟨time.wholeSeconds duration, (duration % 1000000000).toUInt64.toUInt32⟩
    | none =>
        match parseUint text 64 with
        | (secs, none) => some ⟨UInt64.ofNat secs, 0⟩
        | (_, some _) => none

-- The value as it reads, and as the JSON of the claims carries it.
def options (query : Option (List Char)) (key : String) : Option String :=
  ((query.map parseQuery).bind (List.lookup (bytesOf key))).map textOf

def getTimeout (time : TimeLibrary) (query : Option (List Char)) : Option Duration :=
  match options query "timeout_sec" with
  | some text => parseDurationSec time text
  | none => some ⟨30, 0⟩

def getCredentials (query : Option (List Char)) : Option Credentials :=
  let login := (options query "login").getD ""
  let password := (options query "password").getD ""
  if login ≠ "" ∧ password ≠ "" then some ⟨login, password⟩ else none

def getProxyProtocol (query : Option (List Char)) : Bool := (options query "proxy_protocol").isSome

structure FieldScan where
  fields : List (List Char)
  current : List Char
  inBrackets : Bool
deriving DecidableEq, Repr

def scanBrackets (inBrackets : Bool) (rune : Char) : Bool :=
  if rune = '[' then true else if rune = ']' then false else inBrackets

def scanRune (scan : FieldScan) (rune : Char) : FieldScan :=
  let inBrackets := scanBrackets scan.inBrackets rune
  if rune = ':' ∧ inBrackets = false then ⟨scan.fields ++ [scan.current], [], inBrackets⟩
  else ⟨scan.fields, scan.current ++ [rune], inBrackets⟩

def splitFields (info : List Char) : List (List Char) :=
  let scan := info.foldl scanRune ⟨[], [], false⟩
  scan.fields ++ [scan.current]

structure ArgFields where
  localBind : String
  localPort : String
  remoteHost : String
  remotePort : UInt16
deriving DecidableEq, Repr

-- As everywhere in this parser the error of ParseUint is dropped and its value
-- kept.
def portValue (text : String) : UInt16 := UInt16.ofNat (parseUint text 16).1

def argFields (fields : List (List Char)) : Option ArgFields :=
  match fields.map String.ofList with
  | [port] => some ⟨"127.0.0.1", port, "0.0.0.0", 0⟩
  | [bind, port] => some ⟨bind, port, "0.0.0.0", 0⟩
  | [port, host, remotePort] => some ⟨"127.0.0.1", port, host, portValue remotePort⟩
  | [bind, port, host, remotePort] => some ⟨bind, port, host, portValue remotePort⟩
  | _ => none

def schemeProtocol (time : TimeLibrary) (query : Option (List Char)) (isReverse : Bool) (proto : String) :
    Option LocalProtocol :=
  if proto = "tcp" then
    some (if isReverse then { reverseTcp := some () } else { tcp := some ⟨getProxyProtocol query⟩ })
  else if proto = "udp" then
    some (if isReverse then { reverseUdp := some ⟨getTimeout time query⟩ } else { udp := some ⟨getTimeout time query⟩ })
  else if proto = "socks5" then
    some (if isReverse then { reverseSocks5 := some ⟨getTimeout time query, getCredentials query⟩ }
      else { socks5 := some ⟨getTimeout time query, getCredentials query⟩ })
  else if proto = "http" then
    some (if isReverse then { reverseHttpProxy := some ⟨getTimeout time query, getCredentials query⟩ }
      else { httpProxy := some ⟨getTimeout time query, getCredentials query, getProxyProtocol query⟩ })
  else if proto = "tproxy+tcp" then some { tproxyTcp := some () }
  else if proto = "tproxy+udp" then some { tproxyUdp := some ⟨getTimeout time query⟩ }
  else none

def brackets : List Char := ['[', ']']

def parseStdio (info : String) (query : Option (List Char)) : Except String LocalToRemote :=
  match splitHostPort info with
  | .error err => .error ("invalid stdio target: " ++ err.message info)
  | .ok (host, port) => .ok ⟨{ stdio := some ⟨getProxyProtocol query⟩ }, "", host, portValue port⟩

-- In reverse the second path is where the server listens.
def parseUnix (info : List Char) (query : Option (List Char)) (isReverse : Bool) : LocalToRemote :=
  let (localPath, remotePath) := (cut [':'] info).getD (info, [])
  let localPath := String.ofList localPath
  let remotePath := String.ofList remotePath
  if isReverse then ⟨{ reverseUnix := some ⟨localPath⟩ }, localPath, remotePath, 0⟩
  else ⟨{ unix := some ⟨remotePath, getProxyProtocol query⟩ }, localPath, remotePath, 0⟩

structure TunnelArg where
  proto : String
  info : List Char
  query : Option (List Char)
deriving DecidableEq, Repr

def splitArg (arg : String) : Option TunnelArg :=
  (cut [':', '/', '/'] arg.toList).map fun (proto, rest) =>
    match cut ['?'] rest with
    | some (info, query) => ⟨String.ofList proto, info, some query⟩
    | none => ⟨String.ofList proto, rest, none⟩

def parseTunnelArg (time : TimeLibrary) (arg : String) (isReverse : Bool) : Except String LocalToRemote :=
  match splitArg arg with
  | none => .error "invalid tunnel format, missing ://"
  | some ⟨proto, info, query⟩ =>
      if proto = "stdio" then parseStdio (String.ofList info) query
      else if proto = "unix" then .ok (parseUnix info query isReverse)
      else
        match argFields (splitFields info) with
        | none => .error ("invalid tunnel format: " ++ String.ofList info)
        | some fields =>
            match schemeProtocol time query isReverse proto with
            | none => .error ("unsupported protocol: " ++ proto)
            | some protocol =>
                .ok ⟨protocol, joinHostPort (trim fields.localBind brackets) fields.localPort,
                  trim fields.remoteHost brackets, fields.remotePort⟩

end WarpStream
