import PgMcp.Schema.Budget

/-!
# Snapshots of a catalog

Over rows that can be decoded, the assembly with a check after every row does what one
check at the end would do, and the snapshot it returns is the catalog, sorted.

## Main results

* `assemble_agrees` — the assembly meets a limit exactly when the complete snapshot fails
  its validation, and returns that snapshot otherwise.
* `assemble_exact` — within the limits the snapshot is sorted, has exactly the rows, and
  does not depend on their order.
-/

namespace PgMcp

open Catalog

/-- The checks in between agree with the final one. -/
theorem assemble_agrees (c : Catalog) (config : Config) (readable : c.Readable) :
    (assemble config c.relations c.columns c.constraints = .error .limit ↔
        c.snapshot.validate config ≠ .ok ()) ∧
      (assemble config c.relations c.columns c.constraints ≠ .error .limit →
        assemble config c.relations c.columns c.constraints = .ok c.snapshot) := by
  rw [Ne, validate_iff]
  rcases assemble_cases readable config with ⟨hfits, hassemble⟩ | ⟨hfits, hassemble⟩
  · rw [hassemble]
    exact ⟨⟨nofun, fun h => absurd hfits h⟩, fun _ => rfl⟩
  · rw [hassemble]
    exact ⟨⟨fun _ => hfits, fun _ => rfl⟩, fun h => absurd rfl h⟩

/-- Within the limits the snapshot is the catalog, in the order of its names and ordinals,
whatever order the server sent the rows in. -/
theorem assemble_exact (c : Catalog) (config : Config) (readable : c.Readable) (distinct : c.Distinct)
    (within : c.snapshot.validate config = .ok ()) :
    assemble config c.relations c.columns c.constraints = .ok c.snapshot ∧ c.snapshot.Sorted ∧
      c.snapshot.Exact c ∧
      ∀ c', c.Perm c' →
        assemble config c'.relations c'.columns c'.constraints = .ok c.snapshot := by
  have hassemble : ∀ {c' : Catalog}, c'.Readable → c'.snapshot = c.snapshot →
      assemble config c'.relations c'.columns c'.constraints = .ok c.snapshot := by
    intro c' readable' hsame
    rcases assemble_cases readable' config with ⟨-, h⟩ | ⟨hfits, -⟩
    · rw [h, hsame]
    · rw [hsame] at hfits
      exact absurd (validate_iff.mp within) hfits
  refine ⟨hassemble readable rfl, sorted_snapshot distinct, exact_snapshot readable distinct, ?_⟩
  exact fun c' hperm => hassemble (hperm.readable readable) (snapshot_perm distinct hperm).symm

/-- Two tables and a view in two schemas, in an order of the server's own. -/
def shop : Catalog where
  relations :=
    [[some "shop", some "orders", some "r", some "16390"], [some "shop", some "Items", some "r", some "16384"],
      [some "audit", some "log", some "v", some "16400"]]
  columns :=
    [[some "shop", some "orders", some "total", some "2", some "20", some "bigint", some "t", none, some "",
        some "f"],
      [some "shop", some "orders", some "id", some "1", some "23", some "integer", some "f", none, some "a",
        some "f"]]
  constraints := [[some "shop", some "orders", some "orders_pkey", some "p", some "PRIMARY KEY (id)"]]

theorem readable_shop : shop.Readable where
  relations := by decide +kernel
  columns := by decide +kernel
  constraints := by decide +kernel
  listedColumns := by decide +kernel
  listedConstraints := by decide +kernel

theorem distinct_shop : shop.Distinct where
  relations := by decide +kernel
  columns := by decide +kernel
  constraints := by decide +kernel

theorem assemble_agrees_shop :
    (assemble .default shop.relations shop.columns shop.constraints = .error .limit ↔
        shop.snapshot.validate .default ≠ .ok ()) ∧
      (assemble .default shop.relations shop.columns shop.constraints ≠ .error .limit →
        assemble .default shop.relations shop.columns shop.constraints = .ok shop.snapshot) :=
  assemble_agrees shop .default readable_shop

theorem assemble_exact_shop :
    assemble .default shop.relations shop.columns shop.constraints = .ok shop.snapshot ∧
      shop.snapshot.Sorted ∧ shop.snapshot.Exact shop ∧
      ∀ c', shop.Perm c' →
        assemble .default c'.relations c'.columns c'.constraints = .ok shop.snapshot :=
  assemble_exact shop .default readable_shop distinct_shop (by decide +kernel)

end PgMcp
