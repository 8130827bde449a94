import CitationStudio.Render.Registry

/-! The modules that come with the program, for where nothing else can be imported: what each of
them holds under which name, and what becomes of it when it is made without words of its own. A name
means the same in every module that has it, a few names that each module has about itself apart.
What acts when it is made, or gives another text each time, is not listed. -/

namespace CitationStudio.Render

/-- What is found under a name. -/
inductive Member where
  /-- It is made without words, and is then of a class. -/
  | makes (className : String)
  /-- It cannot be made without some words. -/
  | needs (callee : String) (words : List String)
  /-- It is a value of a class, which makes nothing. -/
  | holds (className : String)
  /-- It is of a class that leaves some methods open. -/
  | lacks (className : String) (methods : List String)
  | refuses (reason : String)
  deriving Repr, DecidableEq, Inhabited

/-- Words between quotes, with commas between them and the last two joined. -/
def listed : List String → Text
  | [] => []
  | [w] => '\'' :: w.toList ++ ['\'']
  | [v, w] => '\'' :: v.toList ++ "' and '".toList ++ w.toList ++ ['\'']
  | u :: v :: ws => '\'' :: u.toList ++ "', ".toList ++ series (v :: ws)
where
  /-- The words after the first of three or more. -/
  series : List String → Text
    | [] => []
    | [w] => "and '".toList ++ w.toList ++ ['\'']
    | w :: ws => '\'' :: w.toList ++ "', ".toList ++ series ws

/-- Why something cannot be made without words; none if it can. -/
def Member.reason? : Member → Option Text
  | .makes _ => none
  | .needs callee words =>
    some (callee.toList ++ "() missing ".toList ++ Text.ofNat words.length ++
      " required positional argument".toList ++ (if words.length = 1 then [] else ['s']) ++
      ": ".toList ++ listed words)
  | .holds className => some ('\'' :: className.toList ++ "' object is not callable".toList)
  | .lacks className methods =>
    some ("Can't instantiate abstract class ".toList ++ className.toList ++
      " with abstract method".toList ++ (if methods.length = 1 then [] else ['s']) ++ ' ' ::
      (", ".toList).intercalate (methods.map String.toList))
  | .refuses reason => some reason.toList

namespace Catalogue

def contents : List (String × List String) :=
  [("citecraft",
      ["app", "config", "editor", "lab", "renderers", "sync", "template", "tui"]),
  ("citecraft.app",
      ["Any", "CiteCraftConfig", "CombinationLab", "Console", "Dict", "EXPR", "List", "Optional",
       "Path", "RenderError", "RichHandler", "Table", "Text", "Tuple", "_configure_logging",
       "_offsets", "_parts_payload", "_resolve_config", "addend_kind", "annotations", "argparse",
       "compile_segments", "create_parser", "escape", "json", "load_config", "logger",
       "logging", "mark_range", "new_doc", "normalize", "parse_compiled", "print_env",
       "resolve_renderer", "run_combos", "run_mark", "run_parse", "run_render", "sys",
       "tokenize_citation_template"]),
  ("citecraft.config",
      ["Any", "CiteCraftConfig", "Dict", "GLOBAL_CONFIG", "GLOBAL_DIR", "OVERFLOW_MODES",
       "Optional", "PROJECT_CONFIG_NAME", "Path", "_find_project_config", "_load_json",
       "_positive_int", "annotations", "apply_dict", "dataclass", "field", "json", "load_config",
       "logger", "logging", "print_env", "read_config_file", "yaml"]),
  ("citecraft.editor",
      ["Addend", "Callable", "CitationTemplate", "DEFAULT_HISTORY_LIMIT", "Doc", "EXPR",
       "EditingSurface", "FoldState", "Iterator", "List", "Literal", "Offsets", "Optional",
       "Protocol", "SelectionError", "Set", "StringSurface", "TemplateEditor", "TemplateSync",
       "Tuple", "Variable", "VisualEditor", "WrapRangeError", "_edit_alignments", "_ordered",
       "_set_surface_text", "addend_kind", "annotations", "compile_folded", "expanded_doc",
       "fold_selection", "logger", "logging", "mark_expression", "mark_literal", "placeholder_text",
       "re", "replace_range", "tokenize_citation_template", "unfold_all"]),
  ("citecraft.lab",
      ["Callable", "CombinationLab", "ComboRow", "DEFAULT_MAX_COMBINATIONS",
       "DEFAULT_SAMPLE_BUDGET", "Iterable", "List", "Optional", "Renderer", "Sequence",
       "TemplateSync", "annotations", "dataclass", "field", "logger", "logging", "random"]),
  ("citecraft.renderers",
      ["BracketRenderer", "RenderError", "Renderer", "__all__", "base", "bracket", "registry",
       "resolve_renderer"]),
  ("citecraft.renderers.base",
      ["Optional", "Protocol", "RenderError", "Renderer", "annotations", "runtime_checkable"]),
  ("citecraft.renderers.bracket",
      ["Addend", "BracketRenderer", "CompiledTemplateError", "Expression", "Iterator", "Literal",
       "Optional", "RenderError", "Sequence", "Variable", "annotations", "logger", "logging",
       "parse_compiled"]),
  ("citecraft.renderers.registry",
      ["BUILTIN_RENDERERS", "BracketRenderer", "Callable", "Dict", "Renderer", "annotations",
       "importlib", "resolve_renderer"]),
  ("citecraft.sync",
      ["Callable", "List", "Optional", "Sequence", "SyncCallback", "TemplateSync", "annotations"]),
  ("citecraft.template",
      ["Addend", "CitationTemplate", "CompiledTemplateError", "EXPR", "Expression", "FoldState",
       "IndexOutOfRangeError", "InvertedRangeError", "LITERAL", "Literal", "NonIntegerIndexError",
       "PLACEHOLDER", "Segment", "SelectionError", "Variable", "WrapRangeError", "__all__",
       "addend_kind", "addends", "builder", "collect_variables", "compile_folded",
       "compile_segments", "compiled_text", "display_text", "escape_literal_text",
       "expand_with_index_map", "fold_selection", "folding", "is_balanced_span", "locate",
       "mark_expression", "mark_literal", "mark_range", "merge_ranges", "new_doc", "normalize",
       "parse", "parse_compiled", "segments", "split_at", "tokenize_citation_template", "tokenizer",
       "unescape_literal", "unescape_literal_text", "unfold_all"]),
  ("citecraft.template.addends",
      ["Addend", "Expression", "List", "Literal", "PLACEHOLDER_TOKEN", "Tuple", "Union", "Variable",
       "_ESCAPED_CHARS", "addend_kind", "annotations", "collect_variables", "compiled_text",
       "dataclass", "display_text", "escape_literal_text", "unescape_literal",
       "unescape_literal_text"]),
  ("citecraft.template.builder",
      ["Addend", "Callable", "CitationTemplate", "DEFAULT_HISTORY_LIMIT", "Expression",
       "IndexOutOfRangeError", "InvertedRangeError", "List", "Literal", "NonIntegerIndexError",
       "Optional", "Parts", "Sequence", "Tuple", "Variable", "WrapRangeError", "_is_int",
       "annotations", "collect_variables", "compiled_text", "display_text", "logger", "logging"]),
  ("citecraft.template.folding",
      ["FoldState", "Iterable", "List", "Optional", "PLACEHOLDER", "Range", "SelectionError",
       "Sequence", "Tuple", "_check_selection", "_padded_pieces", "_remap_ranges",
       "_snap_to_tokens", "annotations", "compile_folded", "compile_segments", "dataclass",
       "expand", "expand_with_index_map", "expanded_doc", "field", "find_placeholders",
       "fold_selection", "is_balanced_span", "logger", "logging", "mark_expression", "mark_literal",
       "merge_ranges", "placeholder_text", "replace_range", "segments_from_ranges",
       "subtract_range", "translate_range", "unfold_all"]),
  ("citecraft.template.segments",
      ["Doc", "EXPR", "Iterable", "LITERAL", "List", "SEGMENT_TYPES", "Segment", "Sequence",
       "Tuple", "annotations", "compile_segment", "compile_segments", "dataclass",
       "expression_count", "field", "is_normalized", "locate", "mark_range", "new_doc", "normalize",
       "plain_text", "replace", "segments_from_ranges", "split_at", "uuid"]),
  ("citecraft.template.tokenizer",
      ["Addend", "CompiledTemplateError", "Expression", "List", "Literal", "Optional",
       "PLACEHOLDER_TOKEN", "PUNCTUATION", "Sequence", "Token", "Variable", "_CompiledParser",
       "_PARENTHESIZED", "_find_closing_bracket", "annotations", "dataclass", "logger", "logging",
       "parse", "parse_compiled", "re", "scan_citation_template", "split_literal",
       "tokenize_citation_template", "unescape_literal_text"]),
  ("citecraft.tui",
      ["app", "screens", "surface", "widgets"]),
  ("citecraft.tui.app",
      ["App", "Binding", "Button", "CITECRAFT_THEME", "CiteCraftApp", "CiteCraftConfig",
       "CombinationLab", "CombosScreen", "ComposeResult", "EXPR", "Footer", "Header", "Horizontal",
       "List", "MessageLog", "Optional", "PartsView", "PreviewPane", "Renderer", "SelectionList",
       "Static", "TabPane", "TabbedContent", "TemplateEditor", "TemplateSync", "TextArea",
       "TextAreaSurface", "Theme", "Vertical", "VisualEditor", "annotations", "escape",
       "resolve_renderer"]),
  ("citecraft.tui.screens",
      ["combos"]),
  ("citecraft.tui.screens.combos",
      ["Binding", "Button", "ComboRow", "CombosScreen", "ComposeResult", "Horizontal",
       "ModalScreen", "Static", "Vertical", "VerticalScroll", "annotations", "escape"]),
  ("citecraft.tui.surface",
      ["Optional", "TextArea", "TextAreaSurface", "Tuple", "annotations", "location_to_offset",
       "offset_to_location"]),
  ("citecraft.tui.widgets",
      ["message_log", "parts_view", "preview"]),
  ("citecraft.tui.widgets.message_log",
      ["MessageLog", "RichLog", "annotations", "escape"]),
  ("citecraft.tui.widgets.parts_view",
      ["Addend", "PartsView", "Selection", "SelectionList", "Sequence", "Text", "_KIND_STYLES",
       "addend_kind", "annotations"]),
  ("citecraft.tui.widgets.preview",
      ["CombinationLab", "PreviewPane", "Static", "annotations", "escape"])]

/-- The modules that hold others. -/
def packages : List String :=
  ["citecraft", "citecraft.renderers", "citecraft.template", "citecraft.tui",
   "citecraft.tui.screens", "citecraft.tui.widgets"]

/-- The packages that are no more than a folder. -/
def folders : List String :=
  ["citecraft", "citecraft.tui", "citecraft.tui.screens", "citecraft.tui.widgets"]

/-- What every module holds. -/
def everywhere : List (String × Member) :=
  [("__annotations__", .holds "dict"),
   ("__class__", .refuses "module() missing required argument 'name' (pos 1)"),
   ("__delattr__", .refuses "expected 1 argument, got 0"), ("__dict__", .holds "dict"),
   ("__dir__", .makes "list"), ("__eq__", .refuses "expected 1 argument, got 0"),
   ("__format__", .refuses "__format__() takes exactly one argument (0 given)"),
   ("__ge__", .refuses "expected 1 argument, got 0"),
   ("__getattribute__", .refuses "expected 1 argument, got 0"), ("__getstate__", .makes "dict"),
   ("__gt__", .refuses "expected 1 argument, got 0"), ("__hash__", .makes "int"),
   ("__init__", .refuses "module() missing required argument 'name' (pos 1)"),
   ("__init_subclass__", .makes "NoneType"), ("__le__", .refuses "expected 1 argument, got 0"),
   ("__lt__", .refuses "expected 1 argument, got 0"), ("__name__", .holds "str"),
   ("__ne__", .refuses "expected 1 argument, got 0"),
   ("__new__", .refuses "module.__new__(): not enough arguments"), ("__package__", .holds "str"),
   ("__reduce__", .refuses "cannot pickle 'module' object"),
   ("__reduce_ex__", .refuses "__reduce_ex__() takes exactly one argument (0 given)"),
   ("__setattr__", .refuses " expected 2 arguments, got 0"),
   ("__sizeof__", .makes "int"), ("__spec__", .holds "ModuleSpec"),
   ("__subclasshook__", .makes "NotImplementedType")]

/-- What a module holds about the file it is in. -/
def ofFile : List (String × Member) :=
  [("__doc__", .holds "str"), ("__file__", .holds "str"), ("__loader__", .holds "SourceFileLoader"),
   ("__builtins__", .holds "dict"), ("__cached__", .holds "str")]

/-- What a folder holds about itself. -/
def ofFolder : List (String × Member) :=
  [("__doc__", .holds "NoneType"), ("__file__", .holds "NoneType"),
   ("__loader__", .holds "NamespaceLoader"), ("__path__", .holds "_NamespacePath")]

/-- What a package in a file holds about itself. -/
def ofPackage : List (String × Member) := [("__path__", .holds "list")]

def members : List (String × Member) :=
  [("Addend", .refuses "Cannot instantiate typing.Union"),
   ("Any", .refuses "Any cannot be instantiated"), ("App", .makes "App"),
   ("BUILTIN_RENDERERS", .holds "dict"), ("Binding", .needs "Binding.__init__" ["key", "action"]),
   ("BracketRenderer", .makes "BracketRenderer"), ("Button", .makes "Button"),
   ("CITECRAFT_THEME", .holds "Theme"), ("Callable", .lacks "Callable" ["__call__"]),
   ("CitationTemplate", .makes "CitationTemplate"), ("CiteCraftApp", .makes "CiteCraftApp"),
   ("CiteCraftConfig", .makes "CiteCraftConfig"),
   ("CombinationLab", .needs "CombinationLab.__init__" ["renderer"]),
   ("ComboRow", .needs "ComboRow.__init__" ["label"]),
   ("CombosScreen", .needs "CombosScreen.__init__" ["rows", "total"]),
   ("CompiledTemplateError", .makes "CompiledTemplateError"),
   ("ComposeResult", .lacks "Iterable" ["__iter__"]), ("Console", .makes "Console"),
   ("DEFAULT_HISTORY_LIMIT", .holds "int"), ("DEFAULT_MAX_COMBINATIONS", .holds "int"),
   ("DEFAULT_SAMPLE_BUDGET", .holds "int"),
   ("Dict", .refuses "Type Dict cannot be instantiated; use dict() instead"),
   ("Doc", .refuses "Type List cannot be instantiated; use list() instead"), ("EXPR", .holds "str"),
   ("EditingSurface", .refuses "Protocols cannot be instantiated"),
   ("Expression", .needs "Expression.__init__" ["children"]), ("FoldState", .makes "FoldState"),
   ("Footer", .makes "Footer"), ("GLOBAL_CONFIG", .holds "PosixPath"),
   ("GLOBAL_DIR", .holds "PosixPath"), ("Header", .makes "Header"),
   ("Horizontal", .makes "Horizontal"), ("IndexOutOfRangeError", .makes "IndexOutOfRangeError"),
   ("InvertedRangeError", .makes "InvertedRangeError"),
   ("Iterable", .lacks "Iterable" ["__iter__"]), ("Iterator", .lacks "Iterator" ["__next__"]),
   ("LITERAL", .holds "str"),
   ("List", .refuses "Type List cannot be instantiated; use list() instead"),
   ("Literal", .needs "Literal.__init__" ["text"]), ("MessageLog", .makes "MessageLog"),
   ("ModalScreen", .makes "ModalScreen"), ("NonIntegerIndexError", .makes "NonIntegerIndexError"),
   ("OVERFLOW_MODES", .holds "tuple"),
   ("Offsets", .refuses "Type Tuple cannot be instantiated; use tuple() instead"),
   ("Optional", .refuses "Cannot instantiate typing.Optional"), ("PLACEHOLDER", .holds "str"),
   ("PLACEHOLDER_TOKEN", .holds "str"), ("PROJECT_CONFIG_NAME", .holds "str"),
   ("PUNCTUATION", .holds "frozenset"),
   ("Parts", .refuses "Type Tuple cannot be instantiated; use tuple() instead"),
   ("PartsView", .makes "PartsView"), ("Path", .makes "PosixPath"),
   ("PreviewPane", .needs "PreviewPane.__init__" ["lab"]), ("Protocol", .makes "Protocol"),
   ("Range", .refuses "Type Tuple cannot be instantiated; use tuple() instead"),
   ("RenderError", .makes "RenderError"), ("Renderer", .refuses "Protocols cannot be instantiated"),
   ("RichHandler", .makes "RichHandler"), ("RichLog", .makes "RichLog"),
   ("SEGMENT_TYPES", .holds "tuple"), ("Segment", .needs "Segment.__init__" ["type", "text"]),
   ("Selection", .needs "Selection.__init__" ["prompt", "value"]),
   ("SelectionError", .makes "SelectionError"), ("SelectionList", .makes "SelectionList"),
   ("Sequence", .lacks "Sequence" ["__getitem__", "__len__"]),
   ("Set", .refuses "Type Set cannot be instantiated; use set() instead"),
   ("Static", .makes "Static"), ("StringSurface", .makes "StringSurface"),
   ("SyncCallback", .lacks "Callable" ["__call__"]),
   ("TabPane", .needs "TabPane.__init__" ["title"]), ("TabbedContent", .makes "TabbedContent"),
   ("Table", .makes "Table"), ("TemplateEditor", .makes "TemplateEditor"),
   ("TemplateSync", .makes "TemplateSync"), ("Text", .makes "Text"),
   ("TextArea", .makes "TextArea"), ("TextAreaSurface", .needs "TextAreaSurface.__init__" ["area"]),
   ("Theme", .needs "Theme.__init__" ["name", "primary"]),
   ("Token", .needs "Token.__init__" ["type", "value"]),
   ("Tuple", .refuses "Type Tuple cannot be instantiated; use tuple() instead"),
   ("Union", .refuses "Cannot instantiate typing.Union"),
   ("Variable", .needs "Variable.__init__" ["name"]), ("Vertical", .makes "Vertical"),
   ("VerticalScroll", .makes "VerticalScroll"), ("VisualEditor", .makes "VisualEditor"),
   ("WrapRangeError", .makes "WrapRangeError"),
   ("_CompiledParser", .needs "_CompiledParser.__init__" ["text", "names"]),
   ("_ESCAPED_CHARS", .holds "frozenset"), ("_KIND_STYLES", .holds "dict"),
   ("_PARENTHESIZED", .holds "re.Pattern"), ("__all__", .holds "list"),
   ("_check_selection", .needs "_check_selection" ["state", "start", "end"]),
   ("_configure_logging", .needs "_configure_logging" ["verbose", "console"]),
   ("_edit_alignments", .needs "_edit_alignments" ["old", "new"]),
   ("_find_closing_bracket", .needs "_find_closing_bracket" ["text", "start"]),
   ("_find_project_config", .makes "NoneType"), ("_is_int", .needs "_is_int" ["value"]),
   ("_load_json", .needs "_load_json" ["path"]), ("_offsets", .needs "_offsets" ["value"]),
   ("_ordered", .needs "_ordered" ["offsets"]),
   ("_padded_pieces", .needs "_padded_pieces" ["state"]),
   ("_parts_payload", .needs "_parts_payload" ["parts"]),
   ("_positive_int", .needs "_positive_int" ["value", "key"]),
   ("_remap_ranges", .needs "_remap_ranges" ["ranges", "start", "end", "new_length"]),
   ("_resolve_config", .needs "_resolve_config" ["args"]),
   ("_set_surface_text", .needs "_set_surface_text" ["surface", "text"]),
   ("_snap_to_tokens", .needs "_snap_to_tokens" ["buffer", "start", "end"]),
   ("addend_kind", .needs "addend_kind" ["addend"]), ("addends", .holds "module"),
   ("annotations", .holds "_Feature"), ("app", .holds "module"),
   ("apply_dict", .needs "apply_dict" ["config", "data"]), ("argparse", .holds "module"),
   ("base", .holds "module"), ("bracket", .holds "module"), ("builder", .holds "module"),
   ("collect_variables", .needs "collect_variables" ["parts"]),
   ("combos", .holds "module"), ("compile_folded", .needs "compile_folded" ["state"]),
   ("compile_segment", .needs "compile_segment" ["seg"]),
   ("compile_segments", .needs "compile_segments" ["doc"]),
   ("compiled_text", .needs "compiled_text" ["parts"]), ("config", .holds "module"),
   ("create_parser", .makes "ArgumentParser"), ("dataclass", .makes "function"),
   ("display_text", .needs "display_text" ["parts"]), ("editor", .holds "module"),
   ("escape", .needs "escape" ["markup"]),
   ("escape_literal_text", .needs "escape_literal_text" ["text"]),
   ("expand", .needs "expand" ["folded", "pieces"]),
   ("expand_with_index_map", .needs "expand_with_index_map" ["folded", "pieces"]),
   ("expanded_doc", .needs "expanded_doc" ["state"]),
   ("expression_count", .needs "expression_count" ["doc"]), ("field", .makes "Field"),
   ("find_placeholders", .needs "find_placeholders" ["text"]),
   ("fold_selection", .needs "fold_selection" ["state", "start", "end"]),
   ("folding", .holds "module"), ("importlib", .holds "module"),
   ("is_balanced_span", .needs "is_balanced_span" ["text"]),
   ("is_normalized", .needs "is_normalized" ["doc"]), ("json", .holds "module"),
   ("lab", .holds "module"),
   ("load_config", .makes "CiteCraftConfig"), ("locate", .needs "locate" ["doc", "offset"]),
   ("location_to_offset", .needs "location_to_offset" ["text", "location"]),
   ("logger", .holds "Logger"), ("logging", .holds "module"),
   ("mark_expression", .needs "mark_expression" ["state", "start", "end"]),
   ("mark_literal", .needs "mark_literal" ["state", "start", "end"]),
   ("mark_range", .needs "mark_range" ["doc", "start", "end", "seg_type"]),
   ("merge_ranges", .needs "merge_ranges" ["ranges"]), ("message_log", .holds "module"),
   ("new_doc", .makes "list"), ("normalize", .needs "normalize" ["doc"]),
   ("offset_to_location", .needs "offset_to_location" ["text", "offset"]),
   ("parse", .needs "tokenize_citation_template" ["template"]),
   ("parse_compiled", .needs "parse_compiled" ["compiled"]), ("parts_view", .holds "module"),
   ("placeholder_text", .needs "placeholder_text" ["state", "ordinal"]),
   ("plain_text", .needs "plain_text" ["doc"]), ("preview", .holds "module"),
   ("print_env", .needs "print_env" ["config"]), ("random", .holds "module"),
   ("re", .holds "module"), ("read_config_file", .needs "read_config_file" ["path"]),
   ("registry", .holds "module"), ("renderers", .holds "module"),
   ("replace", .needs "replace" ["obj"]),
   ("replace_range", .needs "replace_range" ["state", "start", "end", "text"]),
   ("resolve_renderer", .needs "resolve_renderer" ["name_or_path"]),
   ("run_combos", .needs "run_combos" ["console", "text", "args", "config"]),
   ("run_mark", .needs "run_mark" ["console", "text", "args"]),
   ("run_parse", .needs "run_parse" ["console", "text", "args"]),
   ("run_render", .needs "run_render" ["console", "text", "args", "config"]),
   ("runtime_checkable", .needs "runtime_checkable" ["cls"]),
   ("scan_citation_template", .needs "scan_citation_template" ["template"]),
   ("screens", .holds "module"), ("segments", .holds "module"),
   ("segments_from_ranges", .needs "segments_from_ranges" ["text", "ranges"]),
   ("split_at", .needs "split_at" ["doc", "segment_index", "offset_in_segment"]),
   ("split_literal", .needs "split_literal" ["chunk"]),
   ("subtract_range", .needs "subtract_range" ["ranges", "start", "end"]),
   ("surface", .holds "module"), ("sync", .holds "module"), ("sys", .holds "module"),
   ("template", .holds "module"),
   ("tokenize_citation_template", .needs "tokenize_citation_template" ["template"]),
   ("tokenizer", .holds "module"),
   ("translate_range", .needs "translate_range" ["span", "index_map", "expanded_length"]),
   ("tui", .holds "module"), ("unescape_literal", .needs "unescape_literal" ["compiled"]),
   ("unescape_literal_text", .needs "unescape_literal_text" ["text"]),
   ("unfold_all", .needs "unfold_all" ["state"]), ("uuid", .holds "module"),
   ("widgets", .holds "module"), ("yaml", .holds "module")]

/-- What a module holds under a name. -/
def member? (path name : String) : Option Member :=
  match contents.lookup path with
  | none => none
  | some own =>
    if own.contains name then members.lookup name
    else (everywhere.lookup name).or
      (if folders.contains path then ofFolder.lookup name
      else (ofFile.lookup name).or
        (if packages.contains path then ofPackage.lookup name else none))

/-! ## Importing -/

/-- What is made of a class. -/
def named (className : String) : Named :=
  if className = "BracketRenderer" then .bracket
  else
    let isHandler := className = "RichHandler"
    -- A handler formats one record, and nothing else formats.
    let refusal (given : Nat) : Raised :=
      if isHandler then ⟨.other, "Handler.format() takes 2 positional arguments but ".toList ++
        Text.ofNat (given + 2) ++ " were given".toList⟩
      else ⟨.lacking, '\'' :: className.toList ++ "' object has no attribute 'format'".toList⟩
    .foreign
      { className := className.toList
        name := if className = "PosixPath" then some [] else none
        isRenderer := isHandler
        format := fun _ values => .error (refusal values.length)
        preview := fun _ values => .error (refusal values.length) }

def found : Member → Found
  | .makes className => .made (named className)
  | m => .unmade ⟨.other, m.reason?.getD []⟩

/-- The paths of a module and of what it is in, the outermost first. -/
def ancestors (path : Text) : List Text :=
  (List.range path.length).filterMap (fun i =>
    if path[i]? = some '.' then some (path.take i) else none) ++ [path]

def isModule (path : Text) : Bool := (contents.lookup (String.ofList path)).isSome

def isPackage (path : Text) : Bool := packages.contains (String.ofList path)

/-- Why a module cannot be found: the first path that is no module, with the one before it. -/
def missing? (parent : Option Text) : List Text → Option Text
  | [] => none
  | path :: rest =>
    if isModule path then missing? (some path) rest
    else
      let said := "No module named ".toList ++ path.quoted
      match parent with
      | some p =>
        if isPackage p then some said
        else some (said ++ "; ".toList ++ p.quoted ++ " is not a package".toList)
      | none => some said

/-- The modules of the program, and no others. -/
def modules : Modules := fun path name =>
  match path.text?, name.text? with
  | some p, some n =>
    match missing? none (ancestors p) with
    | some reason => .unfound ⟨.lacking, reason⟩
    | none =>
      match member? (String.ofList p) (String.ofList n) with
      | some m => found m
      | none => .unfound ⟨.lacking, "module ".toList ++ p.quoted ++ " has no attribute ".toList ++
          n.quoted⟩
  | _, _ => .unfound ⟨.lacking, "No module named ".toList ++ path.quoted⟩

end Catalogue

end CitationStudio.Render
