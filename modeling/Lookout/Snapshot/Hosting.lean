import Lookout.Decode.Record

/-!
# Hosting snapshot

Servers, their costs and the projects linked to them. Missing members and null leave a field at its
default, and identifiers may be numbers.
-/

namespace Lookout.Snapshot

open Decode

/-- The totals over all servers. -/
structure HostingStats where
  totalServers : UInt32
  activeServers : UInt32
  monthlyCost : Binary64
  currency : Option String
deriving DecidableEq

/-- One server; its cost is per month. -/
structure Server where
  id : String
  name : String
  provider : Option String
  ip : Option String
  monthlyCost : Option Binary64
  status : Option String
  project : Option String
deriving DecidableEq

/-- A project that servers belong to. -/
structure Project where
  id : String
  name : String
deriving DecidableEq

/-- The merged hosting data; without projects if they have never loaded. -/
structure Hosting where
  stats : HostingStats
  servers : List Server
  projects : Option (List Project)
deriving DecidableEq

/-- How the totals are read. -/
def HostingStats.record : Record HostingStats where
  name := "HostingStats"
  initial := ⟨0, 0, .zero false, none⟩
  fields := [
    .optional "total_servers" ["totalServers"] readUInt32 fun n s => { s with totalServers := n },
    .optional "active_servers" ["activeServers"] readUInt32 fun n s => { s with activeServers := n },
    .optional "monthly_cost" ["monthlyCost", "total_cost"] readReal fun x s =>
      { s with monthlyCost := x },
    .optional "currency" [] (readOptional readText) fun c s => { s with currency := c }]

/-- How a server is read. -/
def Server.record : Record Server where
  name := "Server"
  initial := ⟨"", "", none, none, none, none, none⟩
  fields := [
    .optional "id" [] readIdentifier fun i s => { s with id := i },
    .optional "name" [] readText fun n s => { s with name := n },
    .optional "provider" [] (readOptional readText) fun p s => { s with provider := p },
    .optional "ip" [] (readOptional readText) fun a s => { s with ip := a },
    .optional "monthly_cost" ["monthlyCost", "price"] (readOptional readReal) fun x s =>
      { s with monthlyCost := x },
    .optional "status" [] (readOptional readText) fun t s => { s with status := t },
    .optional "project" ["projectName"] (readOptional readText) fun p s => { s with project := p }]

/-- How a project is read. -/
def Project.record : Record Project where
  name := "ProjectRef"
  initial := ⟨"", ""⟩
  fields := [
    .optional "id" [] readIdentifier fun i p => { p with id := i },
    .optional "name" [] readText fun n p => { p with name := n }]

/-- How the merged hosting data is read. -/
def Hosting.record : Record Hosting where
  name := "HostingSnapshot"
  initial := ⟨HostingStats.record.initial, [], none⟩
  fields := [
    .optional "stats" [] (readOrDefault HostingStats.record.initial HostingStats.record.read)
      fun t h => { h with stats := t },
    .optional "servers" [] (readOrDefault [] (readList Server.record.read)) fun s h =>
      { h with servers := s },
    .optional "projects" [] (readOptional (readList Project.record.read)) fun p h =>
      { h with projects := p }]

/-- Reads the hosting data from a snapshot. -/
def Hosting.read : Reader Hosting := Hosting.record.read

end Lookout.Snapshot
