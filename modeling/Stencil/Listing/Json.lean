import Stencil.Listing

/-!
# Generated code as JSON

Editors ask for the generated code together with its mappings.  Both are
written as one JSON object without white space, in which only quotes,
backslashes and control characters are escaped.
-/

namespace Stencil

def jsonCharacter (c : Char) : Text :=
  if c = '"' then ['\\', '"']
  else if c = '\\' then ['\\', '\\']
  else if c = '\x08' then ['\\', 'b']
  else if c = '\x0c' then ['\\', 'f']
  else if c = '\n' then ['\\', 'n']
  else if c = '\r' then ['\\', 'r']
  else if c = '\t' then ['\\', 't']
  else if c.toNat < 0x20 then '\\' :: 'u' :: Text.hexadecimal 4 c.toNat
  else [c]

def jsonString (text : Text) : Text :=
  '"' :: text.flatMap jsonCharacter ++ ['"']

def Mapping.json (mapping : Mapping) : Text :=
  "\x7b\"gen_line\":".toList ++ Text.ofNat mapping.generatedLine ++
    ",\"src_line\":".toList ++ Text.ofNat mapping.sourceLine ++ "\x7d".toList

def Code.json (code : Code) : Text :=
  "\x7b\"code\":".toList ++ jsonString code.text ++
    ",\"mappings\":[".toList ++
    Text.join [','] (code.mappings.map Mapping.json) ++ "]\x7d".toList

end Stencil
