import ApiDrift.Compare.Keyed
import ApiDrift.Number.Natural
import ApiDrift.Spec

/-!
# Statistics of a specification

How many entities of each kind a specification has, and how often each method is used, in the order
of first use.
-/

namespace ApiDrift

structure Statistics where
  name : String
  version : String
  format : Format
  endpoints : Nat
  methods : Compare.Keyed Nat
  parameters : Nat
  schemas : Nat
  deprecated : Nat
  securitySchemes : Nat
deriving DecidableEq, Repr

namespace Statistics

/-- One more occurrence of a text. -/
def countOne (counts : Compare.Keyed Nat) (name : String) : Compare.Keyed Nat :=
  counts.put name ((counts.get? name).getD 0 + 1)

/-- How often each text of a list occurs, in the order of first occurrence. -/
def tally (names : List String) : Compare.Keyed Nat := names.foldl countOne []

def ofSpec (s : Spec) : Statistics :=
  { name := s.name
    version := s.version
    format := s.format
    endpoints := s.endpoints.length
    methods := tally (s.endpoints.map (·.method))
    parameters := Number.total (s.endpoints.map fun e => e.parameters.length)
    schemas := s.schemas.length
    deprecated := s.endpoints.countP (·.deprecated)
    securitySchemes := s.security.length }

/-- The tree of statistics. -/
def toDocument (s : Statistics) : Document :=
  .map
    [(.text "name", .text s.name), (.text "version", .text s.version),
     (.text "type", .text s.format.name), (.text "endpoints", .int s.endpoints),
     (.text "methods", .map (s.methods.map fun m => (.text m.1, .int m.2))),
     (.text "parameters", .int s.parameters), (.text "schemas", .int s.schemas),
     (.text "deprecated", .int s.deprecated),
     (.text "security_schemes", .int s.securitySchemes)]

end Statistics
end ApiDrift
