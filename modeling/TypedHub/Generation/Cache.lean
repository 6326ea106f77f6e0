import TypedHub.Stub.Basic

/-!
# The cache of sources

For each file name the stub that was written last and its source. A source is found only for the
very stub that it was written for, so it never goes stale.
-/

namespace TypedHub

structure Cache.Entry where
  fileName : String
  stub : Stub
  source : String

/-- The sources of former passes. -/
structure Cache where
  entries : List Cache.Entry
  /-- No two entries have the same file name. -/
  distinct : (entries.map (·.fileName)).Nodup

namespace Cache

def empty : Cache := ⟨[], List.nodup_nil⟩

/-- The entry of a file name. -/
def find? (cache : Cache) (fileName : String) : Option Entry :=
  cache.entries.find? (·.fileName = fileName)

/-- The source under a file name, if it was written for this stub. -/
def lookup? (cache : Cache) (fileName : String) (stub : Stub) : Option String :=
  match cache.find? fileName with
  | some entry => if entry.stub = stub then some entry.source else none
  | none => none

theorem distinct_filter (cache : Cache) (p : Entry → Bool) :
    ((cache.entries.filter p).map (·.fileName)).Nodup :=
  cache.distinct.sublist (List.filter_sublist.map _)

/-- Puts an entry in the place of the one with its file name. -/
def store (cache : Cache) (entry : Entry) : Cache where
  entries := entry :: cache.entries.filter (·.fileName ≠ entry.fileName)
  distinct := by
    rw [List.map_cons, List.nodup_cons]
    refine ⟨?_, cache.distinct_filter _⟩
    simp only [List.mem_map, List.mem_filter, decide_eq_true_eq, not_exists, not_and]
    exact fun other h => h.2

/-- Keeps only the entries with the given file names. -/
def retain (cache : Cache) (fileNames : List String) : Cache where
  entries := cache.entries.filter (·.fileName ∈ fileNames)
  distinct := cache.distinct_filter _

def size (cache : Cache) : Nat := cache.entries.length

def isEmpty (cache : Cache) : Bool := cache.entries.isEmpty

/-- An entry is found under its name until another one takes its place. -/
theorem find?_store (cache : Cache) (entry : Entry) (fileName : String) :
    (cache.store entry).find? fileName =
      if entry.fileName = fileName then some entry else cache.find? fileName := by
  by_cases h : entry.fileName = fileName
  · simp [find?, store, h]
  · simp only [find?, store, List.find?_cons, h, decide_false, if_false, List.find?_filter]
    congr 1
    funext other
    by_cases h' : other.fileName = fileName
    · simp [h', Ne.symm h]
    · simp [h']

theorem find?_retain (cache : Cache) (fileNames : List String) (fileName : String) :
    (cache.retain fileNames).find? fileName =
      if fileName ∈ fileNames then cache.find? fileName else none := by
  simp only [find?, retain, List.find?_filter]
  split
  · next h =>
    congr 1
    funext other
    by_cases h' : other.fileName = fileName <;> simp [h', h]
  · next h =>
    rw [List.find?_eq_none]
    intro other _
    by_cases h' : other.fileName = fileName <;> simp [h', h]

end Cache

end TypedHub
