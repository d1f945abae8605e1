import Orchestra.Sql.Token

namespace Orchestra

/-- What the value of a function depends on. -/
inductive SqlFunctionKind where
  /-- Nothing but its arguments. -/
  | steady
  /-- Other things as well, such as the time. -/
  | changing
  /-- Many rows. -/
  | grouping
deriving DecidableEq, Repr

/-- A function that takes between two numbers of arguments. -/
structure SqlFunction where
  name : String
  least : Nat
  most : Nat
deriving DecidableEq, Repr

namespace SqlFunction

/-- Stands for any number of arguments that there can be. -/
def any : Nat := 127

def each (least most : Nat) (names : List String) : List SqlFunction := names.map (⟨·, least, most⟩)

def steady : List SqlFunction :=
  each 0 any ["char", "date", "datetime", "format", "json_array", "json_extract", "json_insert", "json_object",
      "json_remove", "json_replace", "json_set", "jsonb_array", "jsonb_extract", "jsonb_insert", "jsonb_object",
      "jsonb_remove", "jsonb_replace", "jsonb_set", "julianday", "printf", "strftime", "time", "unixepoch"] ++
    each 0 0 ["fts5_source_id"] ++
    each 1 any ["concat"] ++
    each 2 any ["coalesce", "concat_ws", "max", "min"] ++
    each 1 1 ["abs", "hex", "json", "json_error_position", "json_quote", "jsonb", "length", "likely", "lower",
      "octet_length", "quote", "soundex", "subtype", "typeof", "unicode", "unlikely", "upper", "zeroblob"] ++
    each 1 2 ["json_array_length", "json_pretty", "json_type", "json_valid", "ltrim", "round", "rtrim", "trim",
      "unhex"] ++
    each 2 2 ["->", "->>", "glob", "ifnull", "instr", "json_patch", "jsonb_patch", "likelihood", "nullif",
      "sqlite_log", "timediff"] ++
    each 2 3 ["like", "substr", "substring"] ++
    each 3 3 ["iif", "replace"]

def changing : List SqlFunction :=
  each 0 any ["bm25", "highlight", "rtreecheck", "snippet"] ++
    each 0 0 ["changes", "current_date", "current_time", "current_timestamp", "last_insert_rowid", "random",
      "sqlite_source_id", "sqlite_version", "total_changes"] ++
    each 1 1 ["fts5", "offsets", "optimize", "randomblob", "rtreedepth", "sqlite_compileoption_get",
      "sqlite_compileoption_used"] ++
    each 1 2 ["fts3_tokenizer", "load_extension", "matchinfo"] ++
    each 2 2 ["match", "rtreenode"]

def grouping : List SqlFunction :=
  each 0 0 ["cume_dist", "dense_rank", "percent_rank", "rank", "row_number"] ++
    each 0 1 ["count"] ++
    each 1 1 ["avg", "first_value", "json_group_array", "jsonb_group_array", "last_value", "max", "min", "ntile", "sum",
      "total"] ++
    each 1 2 ["group_concat"] ++
    each 1 3 ["lag", "lead"] ++
    each 2 2 ["json_group_object", "jsonb_group_object", "nth_value", "string_agg"]

/-- The functions that cannot be called from outside. -/
def inner : List SqlFunction :=
  each 1 1 ["affinity"] ++
    each 2 2 ["expr_compare", "expr_implies_expr", "implies_nonnull_row", "sqlite_rename_quotefix"] ++
    each 3 3 ["sqlite_drop_column"] ++
    each 7 7 ["sqlite_rename_table", "sqlite_rename_test"] ++
    each 9 9 ["sqlite_rename_column"]

def takes (count : Nat) (f : SqlFunction) : Bool := f.least ≤ count && count ≤ f.most

/-- Whether there is a function of a name, which is given in lower case, for some other number of arguments only. -/
def isMiscounted (name : String) (count : Nat) : Bool :=
  let found := (steady ++ changing ++ grouping ++ inner).filter (·.name = name)
  !found.isEmpty && !found.any (takes count)

/-- The kind of the function of a name for a number of arguments, if there is one that can be called. -/
def kind? (name : String) (count : Nat) : Option SqlFunctionKind :=
  let among (fs : List SqlFunction) : Bool := fs.any fun f => f.name = name && f.takes count
  if among steady then some .steady
  else if among changing then some .changing
  else if among grouping then some .grouping
  else none

end SqlFunction

end Orchestra
