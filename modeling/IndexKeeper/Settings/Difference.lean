import IndexKeeper.Settings.Build

/-!
# Differences between desired and observed trees

Settings are compared over the leaves that the server reports: the desired tree mentions only what
is wanted, and the server fills in defaults.  Schema documents are compared the other way round,
over the desired leaves, because the server keeps fields that it was not asked to drop.

Six settings are fixed when an index is created.  `changes?` refuses to call a difference at one of
them a change, also when other settings differ, so that it is never left out silently;
`withoutFixed` is what an update of an index may send.
-/

namespace IndexKeeper.Tree

/-- The settings that are fixed when an index is created. -/
def fixedSettings : List String :=
  ["index.number_of_shards",
    "index.shard.check_on_startup",
    "index.codec",
    "index.routing_partition_size",
    "index.load_fixed_bitset_filters_eagerly",
    "index.hidden"]

/-- Whether a path is written as one of the fixed settings. -/
def isFixed (p : Path) : Bool := fixedSettings.contains p.dotted

/-- A leaf that both trees have a value for, with other texts. -/
structure Difference where
  path : Path
  observed : String
  desired : String
  deriving DecidableEq, Repr

/-- The difference at a path, if there is one. -/
def difference? (desired observed : Tree) (p : Path) : Option Difference :=
  match desired.canonical? p, observed.canonical? p with
  | some want, some have_ => if want = have_ then none else some ⟨p, have_, want⟩
  | _, _ => none

/-- The differences at the observed leaves, in order. -/
def differences (desired observed : Tree) : List Difference :=
  observed.leafPaths.filterMap (difference? desired observed)

/-- Whether the desired settings ask for a change.  With `enforce`, a difference at a fixed setting
is a fault. -/
def changes? (desired observed : Tree) (enforce : Bool) : Except Fault Bool :=
  let found := differences desired observed
  match found.find? fun d => enforce && isFixed d.path with
  | some d => .error (.immutableSetting d.path.dotted d.observed d.desired)
  | none => .ok (!found.isEmpty)

/-- The settings without the fixed ones. -/
def withoutFixed (settings : Tree) : Tree :=
  fixedSettings.foldl (fun t key => (t.remove (Path.ofDotted key)).2) settings

/-- Whether a leaf of the desired schema is missing from the observed one or has another text
there. -/
def schemaDiffers (desired observed : Tree) : Bool :=
  desired.leafPaths.any fun p =>
    match desired.canonical? p, observed.canonical? p with
    | some want, some have_ => want != have_
    | _, _ => true

end IndexKeeper.Tree
