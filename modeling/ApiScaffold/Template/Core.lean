import ApiScaffold.Template.Basic

namespace ApiScaffold.Template.Core

open Node

def index : Template := [
  text "// Domain Models\n",
  forEach "domain" (var "domains") [
    text "export * from './domain/models/", field "domain" ["capitalized"], text ".js';\n"] [],
  text "\n",
  text "// Domain Errors\n",
  text "export * from './domain/errors/DomainError.js';\n",
  text "\n",
  text "// Ports\n",
  text "export * from './ports/index.js';\n",
  text "\n",
  text "// Use Cases\n",
  text "export * from './use-cases/index.js';\n"]

def model : Template := [
  text "import \x7b z \x7d from 'zod';\n",
  text "\n",
  text "/**\n",
  text " * ", field "domain" ["capitalized"], text " validation schema\n",
  text " */\n",
  text "export const ", field "domain" ["capitalized"], text "Schema = z.object(\x7b\n",
  forEach "field" (var "fields") [
    text "  ", field "field" ["name"], text ": ", field "field" ["zod"], text ",\n"] [],
  text "\x7d);\n",
  text "\n",
  text "export type ", field "domain" ["capitalized"], text " = z.infer<typeof ",
  field "domain" ["capitalized"], text "Schema>;\n",
  text "\n",
  text "/**\n",
  text " * Create", field "domain" ["capitalized"], text " input schema\n",
  text " */\n",
  text "export const Create", field "domain" ["capitalized"], text "InputSchema = z.object(\x7b\n",
  forEach "field" (var "create_fields") [
    text "  ", field "field" ["name"], text ": ", field "field" ["zod"], text ",\n"] [],
  text "\x7d);\n",
  text "\n",
  text "export type Create", field "domain" ["capitalized"], text "Input = z.infer<typeof Create",
  field "domain" ["capitalized"], text "InputSchema>;\n",
  text "\n",
  text "/**\n",
  text " * ", field "domain" ["capitalized"], text " response (public-facing)\n",
  text " */\n",
  text "export interface ", field "domain" ["capitalized"], text "Response \x7b\n",
  forEach "field" (var "fields") [
    text "  ", field "field" ["name"], text ": ", field "field" ["ts_type"], text ";\n"] [],
  text "\x7d\n",
  text "\n",
  text "export function to", field "domain" ["capitalized"], text "Response(entity: ",
  field "domain" ["capitalized"], text "): ", field "domain" ["capitalized"], text "Response \x7b\n",
  text "  return \x7b\n",
  forEach "field" (var "fields") [
    text "    ", field "field" ["name"], text ": ", field "field" ["to_response"], text ",\n"] [],
  text "  \x7d;\n",
  text "\x7d\n"]

def domainError : Template := [
  text "/**\n",
  text " * Field-level validation failure\n",
  text " */\n",
  text "export interface FieldError \x7b\n",
  text "  field: string;\n",
  text "  message: string;\n",
  text "\x7d\n",
  text "\n",
  text "/**\n",
  text " * Base domain error\n",
  text " */\n",
  text "export abstract class DomainError extends Error \x7b\n",
  text "  abstract readonly code: string;\n",
  text "  abstract readonly statusCode: number;\n",
  text "\n",
  text "  constructor(message: string) \x7b\n",
  text "    super(message);\n",
  text "    this.name = this.constructor.name;\n",
  text "  \x7d\n",
  text "\n",
  text "  toJSON(): \x7b code: string; message: string \x7d \x7b\n",
  text "    return \x7b code: this.code, message: this.message \x7d;\n",
  text "  \x7d\n",
  text "\x7d\n",
  forEach "error" (var "errors") [
    text "\n",
    text "export class ", field "error" ["name"], text " extends DomainError \x7b\n",
    text "  readonly code = '", field "error" ["code"], text "';\n",
    text "  readonly statusCode = ", field "error" ["status"], text ";\n",
    when (.equals (.path "error" ["name"]) "ValidationError") [
      text "\n",
      text "  constructor(message: string, readonly fields: FieldError[] = []) \x7b\n",
      text "    super(message);\n",
      text "  \x7d\n"] [
      when (.equals (.path "error" ["name"]) "NotFoundError") [
        text "\n",
        text "  constructor(resourceType: string, id: string) \x7b\n",
        text "    super(`$\x7bresourceType\x7d with id '$\x7bid\x7d' not found`);\n",
        text "  \x7d\n"] []],
    text "\x7d\n"] []]

def portsIndex : Template := [
  text "export * from './pagination.js';\n",
  text "export * from './IServices.js';\n",
  forEach "domain" (var "domains") [
    text "export * from './", field "domain" ["repository_name"], text ".js';\n"] []]

def pagination : Template := [
  text "/**\n",
  text " * Pagination input accepted by every repository\n",
  text " */\n",
  text "export interface PaginationInput \x7b\n",
  text "  limit: number;\n",
  text "  offset?: number;\n",
  text "  cursor?: string;\n",
  text "\x7d\n",
  text "\n",
  text "/**\n",
  text " * One page of repository results\n",
  text " */\n",
  text "export interface PaginatedResult<T> \x7b\n",
  text "  items: T[];\n",
  text "  total: number;\n",
  text "  hasMore: boolean;\n",
  text "\x7d\n"]

def services : Template := [
  text "/**\n",
  text " * ID generation service interface\n",
  text " */\n",
  text "export interface IIdGenerator \x7b\n",
  text "  /**\n",
  text "   * Generate a new unique ID (UUID v4)\n",
  text "   */\n",
  text "  generate(): string;\n",
  text "\x7d\n",
  text "\n",
  text "/**\n",
  text " * Date/time service interface (for testability)\n",
  text " */\n",
  text "export interface IDateTimeService \x7b\n",
  text "  /**\n",
  text "   * Get current date/time\n",
  text "   */\n",
  text "  now(): Date;\n",
  text "\x7d\n"]

def repository : Template := [
  text "import \x7b ", field "domain" ["capitalized"], text " \x7d from '../domain/models/",
  field "domain" ["capitalized"], text ".js';\n",
  text "import \x7b PaginatedResult, PaginationInput \x7d from './pagination.js';\n",
  text "\n",
  text "/**\n",
  text " * ", field "domain" ["capitalized"], text " repository interface\n",
  text " */\n",
  text "export interface ", field "domain" ["repository_name"], text " \x7b\n",
  text "  findById(id: string): Promise<", field "domain" ["capitalized"], text " | null>;\n",
  text "  findAll(pagination: PaginationInput): Promise<PaginatedResult<",
  field "domain" ["capitalized"], text ">>;\n",
  text "  create(entity: ", field "domain" ["capitalized"], text "): Promise<",
  field "domain" ["capitalized"], text ">;\n",
  text "  update(id: string, data: Partial<", field "domain" ["capitalized"], text ">): Promise<",
  field "domain" ["capitalized"], text ">;\n",
  text "  delete(id: string): Promise<void>;\n",
  text "\x7d\n"]

def useCasesIndex : Template := [
  forEach "domain" (var "domains") [
    text "export * from './", field "domain" ["token"], text "/index.js';\n"] []]

def domainUseCasesIndex : Template := [
  forEach "route" (var "routes") [
    text "export * from './", print (.filtered .capitalized (.path "route" ["operation_id"])),
    text ".js';\n"] []]

def listUseCase : Template := [
  assign "N" (.path "domain" ["capitalized"]),
  assign "Op" (.filtered .capitalized (.path "route" ["operation_id"])),
  text "import \x7b ", name "N", text "Response, to", name "N",
  text "Response \x7d from '../../domain/models/", name "N", text ".js';\n",
  text "import \x7b ", field "domain" ["repository_name"], text " \x7d from '../../ports/",
  field "domain" ["repository_name"], text ".js';\n",
  text "import \x7b PaginationInput \x7d from '../../ports/pagination.js';\n",
  text "\n",
  text "/**\n",
  text " * Dependencies for ", name "Op", text " use case\n",
  text " */\n",
  text "export interface ", name "Op", text "Deps \x7b\n",
  text "  ", field "domain" ["token"], text "Repository: ", field "domain" ["repository_name"],
  text ";\n",
  text "\x7d\n",
  text "\n",
  text "/**\n",
  text " * ", name "Op", text " input\n",
  text " */\n",
  text "export interface ", name "Op", text "Input \x7b\n",
  text "  limit?: number;\n",
  text "  offset?: number;\n",
  text "  cursor?: string;\n",
  text "\x7d\n",
  text "\n",
  text "/**\n",
  text " * ", name "Op", text " use case result\n",
  text " */\n",
  text "export interface ", name "Op", text "Result \x7b\n",
  text "  items: ", name "N", text "Response[];\n",
  text "  total: number;\n",
  text "  hasMore: boolean;\n",
  text "\x7d\n",
  text "\n",
  text "/**\n",
  text " * ", field "route" ["method", "value"], text " ", field "route" ["path"], text "\n",
  text " */\n",
  text "export async function ", field "route" ["operation_id"], text "(\n",
  text "  input: ", name "Op", text "Input,\n",
  text "  deps: ", name "Op", text "Deps\n",
  text "): Promise<", name "Op", text "Result> \x7b\n",
  text "  const pagination: PaginationInput = \x7b\n",
  text "    limit: Math.min(input.limit ?? ", name "default_limit", text ", ", name "max_limit",
  text "),\n",
  text "    offset: input.offset,\n",
  text "    cursor: input.cursor,\n",
  text "  \x7d;\n",
  text "\n",
  text "  const result = await deps.", field "domain" ["token"],
  text "Repository.findAll(pagination);\n",
  text "\n",
  text "  return \x7b\n",
  text "    items: result.items.map(to", name "N", text "Response),\n",
  text "    total: result.total,\n",
  text "    hasMore: result.hasMore,\n",
  text "  \x7d;\n",
  text "\x7d\n"]

def createUseCase : Template := [
  assign "N" (.path "domain" ["capitalized"]),
  assign "Op" (.filtered .capitalized (.path "route" ["operation_id"])),
  text "import \x7b ZodError \x7d from 'zod';\n",
  text "import \x7b\n",
  text "  Create", name "N", text "Input,\n",
  text "  Create", name "N", text "InputSchema,\n",
  text "  ", name "N", text ",\n",
  text "  ", name "N", text "Response,\n",
  text "  to", name "N", text "Response,\n",
  text "\x7d from '../../domain/models/", name "N", text ".js';\n",
  text "import \x7b FieldError, ValidationError \x7d from '../../domain/errors/DomainError.js';\n",
  text "import \x7b ", field "domain" ["repository_name"], text " \x7d from '../../ports/",
  field "domain" ["repository_name"], text ".js';\n",
  text "import \x7b IDateTimeService, IIdGenerator \x7d from '../../ports/IServices.js';\n",
  text "\n",
  text "/**\n",
  text " * Dependencies for ", name "Op", text " use case\n",
  text " */\n",
  text "export interface ", name "Op", text "Deps \x7b\n",
  text "  ", field "domain" ["token"], text "Repository: ", field "domain" ["repository_name"],
  text ";\n",
  text "  idGenerator: IIdGenerator;\n",
  text "  dateTimeService: IDateTimeService;\n",
  text "\x7d\n",
  text "\n",
  text "/**\n",
  text " * ", field "route" ["method", "value"], text " ", field "route" ["path"], text "\n",
  text " */\n",
  text "export async function ", field "route" ["operation_id"], text "(\n",
  text "  input: Create", name "N", text "Input,\n",
  text "  deps: ", name "Op", text "Deps\n",
  text "): Promise<", name "N", text "Response> \x7b\n",
  text "  let parsed: Create", name "N", text "Input;\n",
  text "  try \x7b\n",
  text "    parsed = Create", name "N", text "InputSchema.parse(input);\n",
  text "  \x7d catch (error) \x7b\n",
  text "    if (error instanceof ZodError) \x7b\n",
  text "      const fields: FieldError[] = error.errors.map(e => (\x7b\n",
  text "        field: e.path.join('.'),\n",
  text "        message: e.message,\n",
  text "      \x7d));\n",
  text "      throw new ValidationError('Invalid input', fields);\n",
  text "    \x7d\n",
  text "    throw error;\n",
  text "  \x7d\n",
  text "\n",
  text "  const now = deps.dateTimeService.now();\n",
  text "  const entity: ", name "N", text " = \x7b\n",
  text "    ...parsed,\n",
  text "    id: deps.idGenerator.generate(),\n",
  text "    createdAt: now,\n",
  text "    updatedAt: now,\n",
  text "  \x7d;\n",
  text "\n",
  text "  const created = await deps.", field "domain" ["token"], text "Repository.create(entity);\n",
  text "  return to", name "N", text "Response(created);\n",
  text "\x7d\n"]

def getUseCase : Template := [
  assign "N" (.path "domain" ["capitalized"]),
  assign "Op" (.filtered .capitalized (.path "route" ["operation_id"])),
  text "import \x7b ", name "N", text "Response, to", name "N",
  text "Response \x7d from '../../domain/models/", name "N", text ".js';\n",
  text "import \x7b NotFoundError \x7d from '../../domain/errors/DomainError.js';\n",
  text "import \x7b ", field "domain" ["repository_name"], text " \x7d from '../../ports/",
  field "domain" ["repository_name"], text ".js';\n",
  text "\n",
  text "/**\n",
  text " * Dependencies for ", name "Op", text " use case\n",
  text " */\n",
  text "export interface ", name "Op", text "Deps \x7b\n",
  text "  ", field "domain" ["token"], text "Repository: ", field "domain" ["repository_name"],
  text ";\n",
  text "\x7d\n",
  text "\n",
  text "/**\n",
  text " * ", field "route" ["method", "value"], text " ", field "route" ["path"], text "\n",
  text " */\n",
  text "export async function ", field "route" ["operation_id"], text "(\n",
  text "  ", field "domain" ["path_param"], text ": string,\n",
  text "  deps: ", name "Op", text "Deps\n",
  text "): Promise<", name "N", text "Response> \x7b\n",
  text "  const entity = await deps.", field "domain" ["token"], text "Repository.findById(",
  field "domain" ["path_param"], text ");\n",
  text "\n",
  text "  if (!entity) \x7b\n",
  text "    throw new NotFoundError('", name "N", text "', ", field "domain" ["path_param"],
  text ");\n",
  text "  \x7d\n",
  text "\n",
  text "  return to", name "N", text "Response(entity);\n",
  text "\x7d\n"]

end ApiScaffold.Template.Core
