import MachineKeeper.Document.Reader
import MachineKeeper.Duration.Units
import MachineKeeper.Json.Basic

/-! What an operator can set: how long to wait between passes, and what manifests leave open. -/
namespace MachineKeeper

/-- How long to wait before the next pass, by how the last one ended. -/
structure Intervals where
  paused : Duration
  drift : Duration
  poll : Duration
  periodic : Duration
  error : Duration
deriving DecidableEq, Repr

def Intervals.standard : Intervals where
  paused := .ofSeconds 30
  drift := .ofSeconds 30
  poll := .ofSeconds 10
  periodic := .ofSeconds 300
  error := .ofSeconds 30

/-- What stands for the parts of a manifest that are left out. -/
structure Defaults where
  network : String
  storagePool : String
  backingImageFormat : String
deriving DecidableEq, Repr

def Defaults.standard : Defaults := ⟨"default", "default", "qcow2"⟩

structure Settings where
  intervals : Intervals
  defaults : Defaults
  /-- The file that the settings were read from. -/
  source? : Option String
deriving DecidableEq, Repr

namespace Settings

open Document

def standard : Settings := ⟨.standard, .standard, none⟩

instance : Inhabited Settings := ⟨standard⟩

def intervalsReader : RecordReader Intervals :=
  Intervals.mk <$> fieldD "paused" duration Intervals.standard.paused
    <*> fieldD "drift" duration Intervals.standard.drift
    <*> fieldD "poll" duration Intervals.standard.poll
    <*> fieldD "periodic" duration Intervals.standard.periodic
    <*> fieldD "error" duration Intervals.standard.error

def defaultsReader : RecordReader Defaults :=
  Defaults.mk <$> fieldD "network" text Defaults.standard.network
    <*> fieldD "storage-pool" text Defaults.standard.storagePool
    <*> fieldD "backing-image-format" text Defaults.standard.backingImageFormat

def recordReader : RecordReader Settings :=
  (⟨·, ·, none⟩) <$> fieldD "requeue" (intervalsReader.node "struct RequeueConfig") .standard
    <*> fieldD "defaults" (defaultsReader.node "struct DefaultsConfig") .standard

def reader : NodeReader Settings := recordReader.node "struct Config"

def intervalsJson (i : Intervals) : Json := .object
  [("paused", .string i.paused.text), ("drift", .string i.drift.text),
    ("poll", .string i.poll.text), ("periodic", .string i.periodic.text),
    ("error", .string i.error.text)]

def defaultsJson (d : Defaults) : Json := .object
  [("network", .string d.network), ("storage-pool", .string d.storagePool),
    ("backing-image-format", .string d.backingImageFormat)]

def json (s : Settings) : Json := .object
  [("requeue", intervalsJson s.intervals), ("defaults", defaultsJson s.defaults)]

end Settings

end MachineKeeper
