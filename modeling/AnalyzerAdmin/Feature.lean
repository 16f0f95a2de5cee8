import AnalyzerAdmin.Text.Decimal

/-!
# Features and attributes

What the analyzer can be asked to do, as one table: the key that users write, the bit that stands
for the feature in a cluster's mask, the field that stands for it in a node's answer, and the
path segment of its switch. Bits are part of the remote contract and are never given away again.
-/

namespace AnalyzerAdmin

/-- A part of the analyzer that is on or off. All others depend on `analyzer`. -/
inductive Feature
  | analyzer
  | rootCause
  | logging
  | batch
deriving DecidableEq, Repr

inductive Attribute
  | shardsPerCollection
deriving DecidableEq, Repr

structure FeatureRow where
  key : String
  bit : Nat
  field : String
  segment : Option String
deriving DecidableEq, Repr

structure AttributeRow where
  key : String
  field : String
deriving DecidableEq, Repr

namespace Feature

def all : List Feature := [.analyzer, .rootCause, .logging, .batch]

/-- The table. The analyzer itself is switched at the bare path and has no segment. -/
def row : Feature → FeatureRow
  | .analyzer => ⟨"pa", 0, "performanceAnalyzerEnabled", none⟩
  | .rootCause => ⟨"rca", 1, "rcaEnabled", some "rca"⟩
  | .logging => ⟨"logging", 2, "loggingEnabled", some "logging"⟩
  | .batch => ⟨"batch", 3, "batchMetricsEnabled", some "batch"⟩

def key (f : Feature) : String := f.row.key

def bit (f : Feature) : Nat := f.row.bit

def field (f : Feature) : String := f.row.field

def segment (f : Feature) : Option String := f.row.segment

def mask (f : Feature) : Nat := 2 ^ f.bit

def ofKey? (key : String) : Option Feature := all.find? fun f => f.key = key

def rank (f : Feature) : Nat := all.idxOf f

def sort (fs : List Feature) : List Feature := fs.mergeSort fun f g => f.rank ≤ g.rank

theorem mem_all (f : Feature) : f ∈ all := by cases f <;> decide

end Feature

namespace Attribute

def all : List Attribute := [.shardsPerCollection]

def row : Attribute → AttributeRow
  | .shardsPerCollection => ⟨"shards_per_collection", "shardsPerCollection"⟩

def key (a : Attribute) : String := a.row.key

def field (a : Attribute) : String := a.row.field

def ofKey? (key : String) : Option Attribute := all.find? fun a => a.key = key

theorem mem_all (a : Attribute) : a ∈ all := by cases a; decide

end Attribute

end AnalyzerAdmin
