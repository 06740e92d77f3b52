import ApiScaffold.Template.Basic

namespace ApiScaffold.Template.Contracts

open Node

def index : Template := [
  text "// Generated TypeScript types from OpenAPI/JSON Schema\n",
  forEach "domain" (var "domains") [
    text "\n",
    text "// ============ ", field "domain" ["capitalized"], text " Types ============\n",
    text "\n",
    text "export interface Create", field "domain" ["capitalized"], text "Request \x7b\n",
    forEach "field" (var "create_fields") [
      text "  ", field "field" ["name"], text ": ", field "field" ["ts_type"], text ";\n"] [],
    text "\x7d\n",
    text "\n",
    text "export interface ", field "domain" ["capitalized"], text "Response \x7b\n",
    forEach "field" (var "fields") [
      text "  ", field "field" ["name"], text ": ", field "field" ["ts_type"], text ";\n"] [],
    text "\x7d\n"] [],
  text "\n",
  text "// ============ Error Types ============\n",
  text "\n",
  text "export type ErrorCode = ", forEach "code" (var "error_codes") [
    text "'", name "code", text "'", when (.fails (.path "loop" ["last"])) [text " | "] []] [],
  text ";\n",
  text "\n",
  text "export interface ApiError \x7b\n",
  text "  code: ErrorCode;\n",
  text "  message: string;\n",
  text "\x7d\n",
  text "\n",
  text "export * from './routes.js';\n"]

def routes : Template := [
  text "// Canonical route table shared by every adapter package\n",
  text "\n",
  text "export type HttpMethod = 'GET' | 'POST';\n",
  text "\n",
  text "export interface RouteDefinition \x7b\n",
  text "  method: HttpMethod;\n",
  text "  path: string;\n",
  text "  operationId: string;\n",
  text "\x7d\n",
  text "\n",
  text "export const ROUTES: readonly RouteDefinition[] = [\n",
  forEach "route" (var "routes") [
    text "  \x7b method: '", field "route" ["method", "value"], text "', path: '",
    field "route" ["path"], text "', operationId: '", field "route" ["operation_id"], text "' \x7d,\n"] [],
  text "] as const;\n",
  text "\n",
  text "export type OperationId = ", forEach "route" (var "routes") [
    text "'", field "route" ["operation_id"], text "'",
    when (.fails (.path "loop" ["last"])) [text " | "] []] [
    text "never"],
  text ";\n"]

end ApiScaffold.Template.Contracts
