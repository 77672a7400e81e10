import LoadScript.Text.Digit
import LoadScript.Text.Split
import LoadScript.Text.WholeNumber

/-!
Targets of requests: URLs, whole or from the path on, what can be wrong with them, and the paths that they
ask for.
-/

namespace LoadScript.Service

structure Target where
  scheme : List Char
  authority : List Char
  path : List Char
deriving DecidableEq, Repr

def cleaned (text : List Char) : List Char :=
  (text.dropWhile fun character => character.toNat ≤ 0x20).filter fun character =>
    character != '\t' && character != '\n' && character != '\r'

def isSchemeCharacter (character : Char) : Bool :=
  character.isAlphanum || character = '+' || character = '-' || character = '.'

def splitScheme (url : List Char) : List Char × List Char :=
  match Text.cut? ':' url with
  | some (scheme, rest) =>
      if !scheme.isEmpty && scheme.all isSchemeCharacter then (scheme.map Char.toLower, rest)
      else ([], url)
  | none => ([], url)

def endsAuthority (character : Char) : Bool :=
  character = '/' || character = '?' || character = '#'

def splitAuthority : List Char → List Char × List Char
  | '/' :: '/' :: rest => (rest.takeWhile (!endsAuthority ·), rest.dropWhile (!endsAuthority ·))
  | rest => ([], rest)

def Target.ofText (text : String) : Target :=
  let (scheme, rest) := splitScheme (cleaned text.toList)
  let (authority, rest) := splitAuthority rest
  { scheme, authority
    path := rest.takeWhile fun character => character != '?' && character != '#' }

inductive TargetError where
  | unmatchedBracket
  | badFutureAddress
  | badAddress
  | portNotNumber
  | portOutOfRange
  | noHost (scheme : String)
deriving DecidableEq, Repr

def TargetError.message : TargetError → String
  | .unmatchedBracket => "Invalid IPv6 URL"
  | .badFutureAddress => "IPvFuture address is invalid"
  | .badAddress => "The IPv6 content between brackets is not valid"
  | .portNotNumber => "Invalid URL: port can't be converted to integer"
  | .portOutOfRange => "Port out of range 0-65535"
  | .noHost scheme =>
      "Invalid URL: host is required for absolute urls with the " ++ scheme ++ " scheme"

def halves (separator : Char) (text : List Char) : List Char × List Char :=
  (Text.cut? separator text).getD (text, [])

def isFutureAddress : List Char → Bool
  | 'v' :: rest =>
      let version := rest.takeWhile fun digit => (Text.hexValue? digit).isSome
      match rest.drop version.length with
      | '.' :: address => !version.isEmpty && !address.isEmpty && !address.contains '\n'
      | _ => false
  | _ => false

def bracketError? (authority : List Char) : Option TargetError :=
  if authority.contains '[' != authority.contains ']' then some .unmatchedBracket
  else if !authority.contains '[' then none
  else
    let address := (halves ']' (halves '[' authority).2).1
    if address.head? = some 'v' then
      if isFutureAddress address then none else some .badFutureAddress
    else if address.contains ':' then none
    else some .badAddress

def hostAndPort (authority : List Char) : List Char × List Char :=
  let location := (Text.splitAt '@' authority).getLast?.getD []
  match Text.cut? '[' location with
  | some (_, bracketed) =>
      let (host, rest) := halves ']' bracketed
      (host, (halves ':' rest).2)
  | none => halves ':' location

def portError? (port : List Char) : Option TargetError :=
  if port.isEmpty then none
  else
    match Text.wholeNumber? (String.ofList port) with
    | none => some .portNotNumber
    | some number => if 0 ≤ number && number ≤ 65535 then none else some .portOutOfRange

def schemesWithHost : List String := ["http", "https", "ws", "wss", "ftp"]

def Target.error? (target : Target) : Option TargetError :=
  if target.authority.isEmpty then none
  else
    let (host, port) := hostAndPort target.authority
    let scheme := String.ofList target.scheme
    bracketError? target.authority <|> portError? port <|>
      if host.isEmpty && schemesWithHost.contains scheme then some (.noHost scheme) else none

def escapedCode? (high low : Char) : Option Nat := do
  pure (16 * (← Text.hexValue? high) + (← Text.hexValue? low))

/-- The codes whose escapes stay: a slash or a percent sign that is escaped is no part of a path's form, and
beyond ASCII an escape is no character. -/
def staysEscaped (code : Nat) : Bool :=
  code = '/'.toNat || code = '%'.toNat || 0x80 ≤ code

def unescaped : List Char → List Char
  | '%' :: high :: low :: rest =>
      match escapedCode? high low with
      | some code =>
          if staysEscaped code then '%' :: high :: low :: unescaped rest
          else Char.ofNat code :: unescaped rest
      | none => '%' :: unescaped (high :: low :: rest)
  | character :: rest => character :: unescaped rest
  | [] => []

def resolveDots (before : List (List Char)) : List (List Char) → List (List Char)
  | [] => before
  | ['.'] :: rest => resolveDots (if rest.isEmpty then before ++ [[]] else before) rest
  | ['.', '.'] :: rest =>
      let before := before.dropLast
      resolveDots (if rest.isEmpty then before ++ [[]] else before) rest
  | segment :: rest => resolveDots (before ++ [segment]) rest

def withoutDots : List Char → List Char
  | '/' :: rest => '/' :: List.intercalate ['/'] (resolveDots [] (Text.splitAt '/' rest))
  | path => path

def Target.route (target : Target) : String :=
  let path := unescaped target.path
  String.ofList (if target.authority.isEmpty then path else withoutDots path)

end LoadScript.Service
