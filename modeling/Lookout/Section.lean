import Lookout.Decode.Record

/-!
# Sections

One endpoint that contributes a named part of a page's data: the path that is asked, how it is asked
and whether the page can do without it.
-/

namespace Lookout

/-- How an endpoint is asked. -/
inductive Method
  | get
  | post
deriving DecidableEq, Inhabited, Repr

/-- The names of the methods that a definition may use. -/
def Method.names : List String := ["GET", "get", "POST", "post"]

/-- The method of a name. -/
def Method.ofName? : String → Option Method
  | "GET" | "get" => some .get
  | "POST" | "post" => some .post
  | _ => none

/-- The method of a name, or the mismatch that names all methods. -/
def Method.ofName (name : String) : Except Decode.Mismatch Method :=
  match Method.ofName? name with
  | some m => .ok m
  | none => .error (.unknownVariant name Method.names)

/-- One endpoint that contributes a named part of a page's data. -/
structure Section where
  name : String
  path : String
  method : Method
  body : Option Json
  isOptional : Bool
deriving Inhabited

namespace Section

open Decode

/-- A required section that is read from a path. -/
def get (name path : String) : Section := ⟨name, path, .get, none, false⟩

/-- Reads a method: its name, or an object whose only member has that name and holds nothing. -/
def readMethod : Reader Method
  | .str name => Method.ofName name
  | .obj [(name, v)] =>
    match Method.ofName name, v with
    | .ok m, .null => .ok m
    | .ok _, v => mistyped "unit" v
    | .error e, _ => .error e
  | .obj _ => .error (.wrongValue .map "map with a single key")
  | v => mistyped "string or map" v

/-- Reads any document. -/
def readAny : Reader Json := fun v => .ok v

/-- How a section is read from a document. -/
def record : Record Section where
  name := "Section"
  initial := ⟨"", "", .get, none, false⟩
  fields := [
    .mandatory "name" readText fun n s => { s with name := n },
    .mandatory "path" readText fun p s => { s with path := p },
    .optional "method" [] readMethod fun m s => { s with method := m },
    .optional "body" [] (readOptional readAny) fun b s => { s with body := b },
    .optional "optional" [] readBool fun o s => { s with isOptional := o }]

/-- Reads a section from a document. -/
def read : Reader Section := record.read

end Section

end Lookout
