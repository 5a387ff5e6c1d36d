import Segmentation.Customer
import Segmentation.Filter
import Segmentation.Table

namespace Segmentation

/-- The order of customers in answers: recent orders first, customers who never ordered last, and
by identifier where that leaves two equal. -/
def Customer.rank (a b : Customer) : Ordering :=
  let byOrder := match a.lastOrder, b.lastOrder with
    | some s, some t => compare t s
    | some _, none => .lt
    | none, some _ => .gt
    | none, none => .eq
  byOrder.then (compare a.id b.id)

namespace Store

structure Customers where
  byId : Table Uuid Customer
  id_of_get? : ∀ {id c}, byId.get? id = some c → c.id = id

namespace Customers

def empty : Customers := ⟨.empty, by simp⟩

instance : Inhabited Customers := ⟨empty⟩

/-- The store with a customer, in place of an earlier one with the same identifier. -/
def insert (s : Customers) (c : Customer) : Customers where
  byId := s.byId.insert c.id c
  id_of_get? := fun {id d} h => by
    rw [Table.get?_insert] at h
    split at h
    · simp_all
    · exact s.id_of_get? h

def matching (s : Customers) (filter : Filter) (owner : String) : List Customer :=
  s.byId.values.filter fun c => c.owner == owner && filter.selects c.record

def count (s : Customers) (filter : Filter) (owner : String) : Nat :=
  (s.matching filter owner).length

def find (s : Customers) (filter : Filter) (owner : String) (limit : Nat) : List Customer :=
  ((s.matching filter owner).mergeSort fun a b => (a.rank b).isLE).take limit

theorem length_find (s : Customers) (filter : Filter) (owner : String) (limit : Nat) :
    (s.find filter owner limit).length = min limit (s.count filter owner) := by
  simp [find, count]

end Customers

end Store

end Segmentation
