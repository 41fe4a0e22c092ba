import MachineKeeper.Host.Domain
import MachineKeeper.Host.Volume

/-! What a host can be asked over a connection. Every object is addressed by its name. -/
namespace MachineKeeper

inductive Call
  | domainInfo
  | domainState
  | defineDomain
  | startDomain
  | destroyDomain
  | undefineDomain
  | leaseAddresses
  | lookupPool
  | refreshPool
  | createVolume
  | volumePath
  | uploadVolume
  | downloadVolume
  | deleteVolume
deriving DecidableEq, Repr

namespace Call

def all : List Call :=
  [domainInfo, domainState, defineDomain, startDomain, destroyDomain, undefineDomain,
    leaseAddresses, lookupPool, refreshPool, createVolume, volumePath, uploadVolume, downloadVolume,
    deleteVolume]

def text : Call → String
  | domainInfo => "domain_info"
  | domainState => "domain_state"
  | defineDomain => "define_domain"
  | startDomain => "start_domain"
  | destroyDomain => "destroy_domain"
  | undefineDomain => "undefine_domain"
  | leaseAddresses => "domain_lease_addresses"
  | lookupPool => "lookup_pool"
  | refreshPool => "refresh_pool"
  | createVolume => "create_volume"
  | volumePath => "volume_path"
  | uploadVolume => "upload_volume"
  | downloadVolume => "download_volume"
  | deleteVolume => "delete_volume"

def ofText? (text : String) : Option Call := all.find? fun call => call.text == text

end Call

inductive Request
  | domainInfo (name : String)
  | domainState (name : String)
  | defineDomain (descriptor : DomainDescriptor)
  | startDomain (name : String)
  | destroyDomain (name : String)
  | undefineDomain (name : String)
  /-- The addresses that the network's server handed out. -/
  | leaseAddresses (name : String)
  | lookupPool (pool : String)
  | refreshPool (pool : String)
  | createVolume (pool : String) (descriptor : VolumeDescriptor)
  | volumePath (pool volume : String)
  | uploadVolume (pool volume : String) (data : Bytes)
  | downloadVolume (pool volume : String)
  | deleteVolume (pool volume : String)
deriving DecidableEq, Repr

namespace Request

def call : Request → Call
  | domainInfo _ => .domainInfo
  | domainState _ => .domainState
  | defineDomain _ => .defineDomain
  | startDomain _ => .startDomain
  | destroyDomain _ => .destroyDomain
  | undefineDomain _ => .undefineDomain
  | leaseAddresses _ => .leaseAddresses
  | lookupPool _ => .lookupPool
  | refreshPool _ => .refreshPool
  | createVolume _ _ => .createVolume
  | volumePath _ _ => .volumePath
  | uploadVolume _ _ _ => .uploadVolume
  | downloadVolume _ _ => .downloadVolume
  | deleteVolume _ _ => .deleteVolume

/-- What a request is answered with when it succeeds. -/
@[reducible] def Reply : Request → Type
  | domainInfo _ => DomainInfo
  | domainState _ => PowerState
  | leaseAddresses _ => List Interface
  | createVolume _ _ | volumePath _ _ => String
  | downloadVolume _ _ => Content
  | _ => Unit

end Request

end MachineKeeper
