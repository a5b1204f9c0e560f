import EventBench.Parser.Elements
import EventBench.Parser.Script
import EventBench.Target.Basic

namespace EventBench.Catalog

/-- The class that all parsers extend. It can be loaded, but none of its passes begins. -/
def baseParser : ParserClass where
  name := "BaseParser"
  label := "parser"
  home := "descent_harness.parsers.base"
  pass := fun _ _ => ⟨[], some .abstractParser⟩

def others (names : List String) : List (String × Attribute) :=
  names.map fun name => (name, .other)

/-- What every module holds about itself. -/
def common : List String :=
  ["__annotations__", "__class__", "__delattr__", "__dict__", "__dir__", "__eq__", "__format__", "__ge__",
    "__getattribute__", "__getstate__", "__gt__", "__hash__", "__init__", "__init_subclass__", "__le__",
    "__lt__", "__name__", "__ne__", "__new__", "__reduce__", "__reduce_ex__", "__repr__", "__setattr__",
    "__sizeof__", "__str__", "__subclasshook__"]

/-- What a module that was read from a file holds besides. -/
def filed : List String :=
  ["__builtins__", "__cached__", "__doc__", "__file__", "__loader__", "__package__", "__spec__"]

/-- A module that was read from a file: what it defines that matters here, and further names in it. -/
def ofFile (name : String) (parsers : List (String × Attribute)) (names : List String) (isUsed : Bool := false) :
    Module where
  name := name
  body := .attributes (parsers ++ others (names ++ filed ++ common))
  isUsed := isUsed

def package (name : String) (parsers : List (String × Attribute)) (names : List String) (isUsed : Bool := false) :
    Module :=
  ofFile name parsers (names ++ ["__all__", "__path__"]) isUsed

def base : String × Attribute := ("BaseParser", .parser baseParser)

def generated : String × Attribute := ("Parser", .parser Parser.lines)

def scripted (parser : ParserClass) : Module :=
  ofFile "scripted" [("Parser", .parser parser), ("NOTHING", .nothing)] ["NUMBER", "function"]

/-- The modules of the harness are in use whenever a class is loaded. -/
def standard (parser : ParserClass) : Catalog where
  modules :=
    [package "descent_harness" [generated, base]
       ["Event", "Measurement", "load_parser", "models", "parsers", "generated", "config", "exceptions", "cli",
         "benchmark"] true,
     ofFile "descent_harness.generated" [generated, base] ["Event", "Iterator"] true,
     package "descent_harness.parsers" [base] ["load_parser", "base", "loader"] true,
     ofFile "descent_harness.parsers.base" [base] ["ABC", "abstractmethod", "Callable", "Iterator", "Event"] true,
     ofFile "descent_harness.parsers.loader" [base]
       ["DEFAULT_CLASS", "ParserLoadError", "load_parser", "logger", "importlib", "logging"] true,
     package "descent_harness.models" []
       ["Event", "Measurement", "MIB", "encode_content", "event", "measurement"] true,
     ofFile "descent_harness.config" []
       ["HarnessConfig", "DEFAULT_PARSER", "DEFAULT_BENCH_ITERATIONS", "ENV_PARSER", "ENV_BENCH_ITERATIONS",
         "ENV_LOG_LEVEL", "dataclass", "logging", "os"] true,
     ofFile "descent_harness.exceptions" [] ["HarnessError", "InputReadError", "ParserLoadError"] true,
     package "descent_harness.benchmark" []
       ["BenchmarkRunner", "BenchmarkConfig", "BenchmarkResult", "count_events", "measure_throughput",
         "GoldenComparison", "check_contract", "compare_to_golden", "format_events", "runner", "throughput",
         "verify"] true,
     ofFile "conftest" [("ElementParser", .parser Parser.elements), generated, base]
       ["Event", "Iterator", "pytest", "any_parser_cls", "element_parser_cls", "parser_cls"],
     scripted parser,
     { name := "broken_import"
       body := .broken .importing "generated module is broken" },
     { name := "broken_value"
       body := .broken .value "generated module failed" }]

end EventBench.Catalog
