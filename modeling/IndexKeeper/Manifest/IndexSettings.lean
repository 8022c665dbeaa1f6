import IndexKeeper.Manifest.Form
import IndexKeeper.Settings.Build

/-!
# Declared index settings

The settings that a declaration may give for an index.  Fields that are not set are left out of
everything that is sent, so a declaration speaks only of what it mentions.
-/

namespace IndexKeeper

/-- The fields that are set, groups by their own fields. -/
structure IndexSettings where
  entries : List (String × Entry) := []

namespace IndexSettings

/-- A positive integer of 64 bits. -/
def positive : Form := .integer 64 (some { low := some 1 })

/-- A truth value as text. -/
def flag : Form := .text (some ⟨["true", "false"], "invalid_boolean"⟩)

/-- Any text. -/
def anyText : Form := .text none

/-- The fields, in the order in which they are declared. -/
def fields : List (String × Form) :=
  [("number_of_shards", .integer 32 (some
      ⟨some 1, some 1024, some "number_of_shards must be between 1 and 1024"⟩)),
    ("shard", .group "ShardSettings"
      [("check_on_startup",
        .text (some ⟨["true", "false", "checksum"], "invalid_check_on_startup"⟩))]),
    ("codec", .text (some ⟨["default", "best_compression"], "invalid_codec"⟩)),
    ("routing_partition_size", .integer 32 (some
      ⟨some 1, some 1023, some "routing_partition_size must be between 1 and 1023"⟩)),
    ("load_fixed_bitset_filters_eagerly", flag),
    ("hidden", flag),
    ("number_of_replicas", .integer 32 (some
      ⟨some 0, none, some "number_of_replicas must not be negative"⟩)),
    ("auto_expand_replicas", anyText),
    ("search", .group "SearchSettings"
      [("idle", .group "SearchIdleSettings" [("after", anyText)])]),
    ("refresh_interval", anyText),
    ("max_result_window", positive),
    ("max_inner_result_window", positive),
    ("max_rescore_window", positive),
    ("max_docvalue_fields_search", positive),
    ("max_script_fields", positive),
    ("max_ngram_diff", positive),
    ("max_shingle_diff", positive),
    ("blocks", .group "BlockSettings"
      [("read_only", flag),
        ("read_only_allow_delete", flag),
        ("read", flag),
        ("write", flag),
        ("metadata", flag)]),
    ("max_refresh_listeners", positive),
    ("analyze", .group "AnalyzeSettings" [("max_token_count", positive)]),
    ("highlight", .group "HighlightSettings" [("max_analyzed_offset", positive)]),
    ("max_terms_count", positive),
    ("max_regex_length", positive),
    ("routing", .group "RoutingSettings"
      [("allocation", .group "AllocationSettings"
        [("enable",
          .text (some ⟨["all", "primaries", "new_primaries", "none"], "invalid_allocation"⟩))]),
        ("rebalance", .group "RebalanceSettings"
        [("enable",
          .text (some ⟨["all", "primaries", "replicas", "none"], "invalid_rebalance"⟩))])]),
    ("gc_deletes", anyText),
    ("default_pipeline", anyText),
    ("final_pipeline", anyText)]

/-- The settings that a value gives. -/
def ofJson? (v : Json) : Option IndexSettings :=
  (Json.Record.read? (Keyed.keys fields) v).bind fun r => (Form.readFields? fields r).map .mk

/-- The shape of the values that give settings. -/
def shape : Json.Shape := .record "IndexSettings" [] (Form.fieldShapes fields)

/-- The settings as a value. -/
def toJson (s : IndexSettings) : Json := (Entry.group s.entries).toJson

/-- The settings tree, rooted at `index`. -/
def toTree (s : IndexSettings) : Except Malformed Tree :=
  Tree.ofSettings? (.obj [("index", s.toJson)])

/-- What the settings break, with their fields below a path. -/
def check (path : List String) (s : IndexSettings) : List Violation :=
  Form.checkFields path fields s.entries

end IndexSettings

end IndexKeeper
