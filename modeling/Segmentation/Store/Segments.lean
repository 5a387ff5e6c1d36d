import Segmentation.Failure
import Segmentation.Segment
import Segmentation.Table

namespace Segmentation

/-- The order of segments in answers: the newest first, and by identifier where that leaves two
equal. -/
def Segment.rank (a b : Segment) : Ordering :=
  (compare b.createdAt a.createdAt).then (compare a.id b.id)

namespace Store

structure Segments where
  byId : Table Uuid Segment
  /-- The identifiers of segments by account and name. -/
  names : Table (String × String) Uuid
  id_of_get? : ∀ {id s}, byId.get? id = some s → s.id = id

namespace Segments

def empty : Segments := ⟨.empty, .empty, by simp⟩

instance : Inhabited Segments := ⟨empty⟩

def place (s : Segments) (segment : Segment) : Table Uuid Segment :=
  s.byId.insert segment.id segment

theorem id_of_place {s : Segments} {segment t : Segment} {id : Uuid}
    (h : (s.place segment).get? id = some t) : t.id = id := by
  rw [place, Table.get?_insert] at h
  split at h
  · simp_all
  · exact s.id_of_get? h

/-- Refused only where the name is taken in the account. -/
def insert (s : Segments) (segment : Segment) : Except Failure Segments :=
  if s.names.contains (segment.owner, segment.name) then .error (.nameTaken segment.name)
  else .ok
    { byId := s.place segment
      names := s.names.insert (segment.owner, segment.name) segment.id
      id_of_get? := id_of_place }

def findByName (s : Segments) (owner name : String) : Option Segment :=
  (s.names.get? (owner, name)).bind s.byId.get?

def get? (s : Segments) (owner : String) (id : Uuid) : Option Segment :=
  (s.byId.get? id).filter fun segment => segment.owner == owner

def list (s : Segments) (owner : String) : List Segment :=
  (s.byId.values.filter fun segment => segment.owner == owner).mergeSort
    fun a b => (a.rank b).isLE

def updateStats (s : Segments) (id : Uuid) (stats : Segment.Stats) : Except Failure Segments :=
  match s.byId.get? id with
  | none => .error (.segmentNotFound id.write)
  | some segment =>
    .ok { s with byId := s.place (segment.applyStats stats), id_of_get? := id_of_place }

end Segments

end Store

end Segmentation
