import RecorderStubs.Journal.Basic

/-! Journals as JSON, indented by two spaces and written in ASCII alone. Every event is stamped
with an identifier and a time, which come from outside. -/
namespace RecorderStubs

structure Stamp where
  id : String
  time : String

/-- One or two units of sixteen bits. -/
def unitEscapes (n : Nat) : List Char :=
  if n < 0x10000 then '\\' :: 'u' :: hexDigits 4 n
  else
    let rest := n - 0x10000
    '\\' :: 'u' :: hexDigits 4 (0xd800 + rest / 0x400)
      ++ '\\' :: 'u' :: hexDigits 4 (0xdc00 + rest % 0x400)

def jsonChar (c : Char) : List Char :=
  if c = '"' || c = '\\' then ['\\', c]
  else if c = '\n' then ['\\', 'n']
  else if c = '\r' then ['\\', 'r']
  else if c = '\t' then ['\\', 't']
  else if c = '\x08' then ['\\', 'b']
  else if c = '\x0c' then ['\\', 'f']
  else if ' ' ≤ c && c ≤ '~' then [c]
  else unitEscapes c.toNat

def jsonText (t : Text) : Text := '"' :: t.flatMap jsonChar ++ ['"']

def jsonString (s : String) : Text := jsonText s.toList

def jsonLines (opening closing : Char) (indent : Nat) (items : List Text) : Text :=
  let margin (n : Nat) : Text := '\n' :: List.replicate n ' '
  opening :: ([','].intercalate (items.map (margin (indent + 2) ++ ·)) ++ margin indent ++ [closing])

def jsonPair (key : String) (value : Text) : Text := jsonString key ++ [':', ' '] ++ value

def Detail.json : Detail → Text
  | .text t => jsonText t
  | .number n => (toString n).toList

def Event.json (e : Event) (s : Stamp) : Text :=
  jsonLines '\x7b' '\x7d' 2
    [jsonPair "id" (jsonString s.id),
      jsonPair "type" (jsonString e.label),
      jsonPair "timestamp" s.time.toList,
      jsonPair "description" (jsonString e.description),
      jsonPair "metadata"
        (jsonLines '\x7b' '\x7d' 4 (e.details.map (fun (key, d) => jsonPair key d.json)))]

def eventsJson (stamp : Nat → Stamp) (events : List Event) : Text :=
  if events.isEmpty then ['[', ']']
  else jsonLines '[' ']' 0 (events.mapIdx (fun i e => e.json (stamp i)))

end RecorderStubs
