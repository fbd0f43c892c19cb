import ScanRoster.Document.Reading
import ScanRoster.Settings.Basic

/-!
# Settings as JSON

The JSON form of settings, and settings read from a document. Whatever is missing has its
standard value, and unknown fields are passed over.
-/

namespace ScanRoster

open Document

/-- The JSON form of settings. -/
def Settings.toJson (s : Settings) : Json :=
  .obj [
    ("defaults", .obj [
      ("output", .str s.defaults.output),
      ("color", .str s.defaults.color)]),
    ("tracker", .obj [
      ("max_entry_age", .str s.tracker.maxEntryAge),
      ("scan_interval", .str s.tracker.scanInterval),
      ("active_scanning", .bool s.tracker.activeScanning)])]

/-- How the output section is read. -/
def OutputSection.shape : RecordShape OutputSection OutputSection where
  name := "Defaults"
  fields := ["output", "color"]
  lenient := true
  blank := Settings.standard.defaults
  take draft name d :=
    match name with
    | "output" => return { draft with output := ← d.readText }
    | _ => return { draft with color := ← d.readText }
  finish := .ok

/-- How the tracker section is read. -/
def TrackerSection.shape : RecordShape TrackerSection TrackerSection where
  name := "TrackerSection"
  fields := ["max_entry_age", "scan_interval", "active_scanning"]
  lenient := true
  blank := Settings.standard.tracker
  take draft name d :=
    match name with
    | "max_entry_age" => return { draft with maxEntryAge := ← d.readText }
    | "scan_interval" => return { draft with scanInterval := ← d.readText }
    | _ => return { draft with activeScanning := ← d.readFlag }
  finish := .ok

/-- How settings are read. -/
def Settings.shape (medium : Medium) : RecordShape Settings Settings where
  name := "Config"
  fields := ["defaults", "tracker"]
  lenient := true
  blank := Settings.standard
  take draft name d :=
    match name with
    | "defaults" => return { draft with defaults := ← d.readRecord medium OutputSection.shape }
    | _ => return { draft with tracker := ← d.readRecord medium TrackerSection.shape }
  finish := .ok

/-- Settings from a document. -/
def Settings.read (medium : Medium) (d : Document) : Except Fault Settings :=
  d.readRecord medium (shape medium)

end ScanRoster
