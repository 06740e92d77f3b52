import ApiScaffold.Api.Domain
import ApiScaffold.Data.Basic
import ApiScaffold.Json.Printer

namespace ApiScaffold.Manifest

def names (pairs : List (String × String)) : Data := .map (pairs.map fun (n, v) => (n, .string v))

def head (directory description : String) : List (String × Data) := [
  ("name", .string (PackageName.inRegistry directory)),
  ("version", .string "0.1.0"),
  ("description", .string description),
  ("main", .string "dist/index.js"),
  ("types", .string "dist/index.d.ts")]

def scripts : String × Data := ("scripts", names [("build", "tsc"), ("clean", "rm -rf dist")])

def license : String × Data := ("license", .string "MIT")

def compilerSettings : Data :=
  .map [
    ("compilerOptions", .map [
      ("target", .string "ES2022"),
      ("module", .string "NodeNext"),
      ("moduleResolution", .string "NodeNext"),
      ("declaration", .bool true),
      ("outDir", .string "./dist"),
      ("rootDir", .string "./src"),
      ("strict", .bool true),
      ("esModuleInterop", .bool true),
      ("skipLibCheck", .bool true)]),
    ("include", .strings ["src/**/*"]),
    ("exclude", .strings ["node_modules", "dist"])]

end ApiScaffold.Manifest
