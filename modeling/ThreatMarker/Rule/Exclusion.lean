import ThreatMarker.Net.Network
import ThreatMarker.Trace.Event
/-
# Excluded networks

A list of networks that a rule leaves out.  A text that is not a network is skipped, and an address
that cannot be read belongs to none: in doubt the rule applies.
-/

namespace ThreatMarker.Rule

set_option autoImplicit false

open Net (Address Network)

/-- Networks that a rule leaves out. -/
structure Exclusions where
  networks : List Network := []
  deriving Repr, DecidableEq

namespace Exclusions

/-- The networks that a text stands for. -/
def network? (text : String) : Option Network :=
  match Network.ofText text with
  | .ok n => some n
  | .error _ => none

/-- Read the texts that are networks. -/
def ofTexts (texts : List String) : Exclusions := ⟨texts.filterMap network?⟩

/-- The warnings about the texts that are not networks. -/
def warnings (owner : String) (texts : List String) : List Trace.Event :=
  texts.filterMap fun text =>
    match Network.ofText text with
    | .ok _ => none
    | .error fault =>
        some { level := .warn, message := "invalid exclusion network, skipping",
               fields := [("rule", owner), ("network", text), ("error", fault.message)] }

def size (e : Exclusions) : Nat := e.networks.length

/-- Whether the text is an address of one of the networks. -/
def contains (e : Exclusions) (ip : String) : Bool :=
  match Address.ofText? ip.toList with
  | some a => e.networks.any (fun n => n.contains a)
  | none => false

end Exclusions

/-- Whether the text is an address of one of the networks that are given as texts. -/
def isExcluded (ip : String) (networks : List String) : Bool :=
  match Address.ofText? ip.toList with
  | none => false
  | some a =>
      networks.any fun text =>
        match Network.ofText text with
        | .ok n => n.contains a
        | .error _ => false

end ThreatMarker.Rule
