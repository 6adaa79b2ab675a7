/-!
# StubGen.CommandLine.Help

The help text of the command line.
-/

namespace StubGen.CommandLine

def usageLines : List String :=
  ["usage: rsocket-rpc-stub-generator [-h] [-c CLEAN [CLEAN ...]]",
   "                                  [-p PATHS [PATHS ...]]",
   "                                  [-d DESCRIPTOR_SETS [DESCRIPTOR_SETS ...]]",
   "                                  [-e EXCLUDES [EXCLUDES ...]] [-o OUTPUT_DIR]",
   "                                  [-I IMPORT_PATHS [IMPORT_PATHS ...]]",
   "                                  [--protoc PROTOC] [--no-format] [--pyright]",
   "                                  [-r]"]

def optionLines : List String :=
  ["  -h, --help            show this help message and exit",
   "  -c CLEAN [CLEAN ...], --clean CLEAN [CLEAN ...]",
   "                        path or glob expressions that match files to clean up",
   "                        before stub generation.",
   "  -p PATHS [PATHS ...], --paths PATHS [PATHS ...]",
   "                        path or glob expressions that match *.proto files for",
   "                        stub generation.",
   "  -d DESCRIPTOR_SETS [DESCRIPTOR_SETS ...], " ++
     "--descriptor-sets DESCRIPTOR_SETS [DESCRIPTOR_SETS ...]",
   "                        pre-built descriptor set files to generate stubs from,",
   "                        instead of running protoc.",
   "  -e EXCLUDES [EXCLUDES ...], --excludes EXCLUDES [EXCLUDES ...]",
   "                        path or glob expressions to exclude from path matches.",
   "  -o OUTPUT_DIR, --output-dir OUTPUT_DIR",
   "                        directory to write all generated stub outputs;",
   "                        defaults to the working directory.",
   "  -I IMPORT_PATHS [IMPORT_PATHS ...], --import-path IMPORT_PATHS [IMPORT_PATHS ...]",
   "                        additional import paths that protoc resolves imported",
   "                        schemas in.",
   "  --protoc PROTOC       the protoc executable.",
   "  --no-format           skip formatting the generated stubs with ruff.",
   "  --pyright             validate the generated stubs with pyright.",
   "  -r, --recursive       recursively search for *.proto files with a given glob",
   "                        expression."]

def helpText : String :=
  "\n".intercalate (usageLines ++
    ["", "Generate RSocket RPC client and server stubs for proto schema files.", "", "options:"] ++
    optionLines) ++ "\n"

end StubGen.CommandLine
