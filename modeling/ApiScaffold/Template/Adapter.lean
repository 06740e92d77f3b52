import ApiScaffold.Template.Basic

namespace ApiScaffold.Template.Adapter

open Node

def sessionAuth : Template := [
  text "import \x7b Request, Response, NextFunction \x7d from 'express';\n",
  text "\n",
  text "/**\n",
  text " * ", name "adapter_title", text " authentication middleware (session-based)\n",
  text " *\n",
  text " * Requires a session identifier in the `", name "session_cookie", text "` cookie. The\n",
  text " * session itself is validated by the host application.\n",
  text " */\n",
  text "export function authMiddleware(req: Request, res: Response, next: NextFunction): void \x7b\n",
  text "  const sessionId: string | undefined = req.cookies?.", name "session_cookie", text ";\n",
  text "\n",
  text "  if (!sessionId) \x7b\n",
  text "    res.status(401).json(\x7b code: ",
  print (.filtered .quoted (.path "unauthorized" ["code"])), text ", message: ",
  print (.filtered .quoted (.path "unauthorized" ["message"])), text " \x7d);\n",
  text "    return;\n",
  text "  \x7d\n",
  text "\n",
  text "  res.locals.credential = sessionId;\n",
  text "  next();\n",
  text "\x7d\n"]

def bearerAuth : Template := [
  text "import \x7b Request, Response, NextFunction \x7d from 'express';\n",
  text "\n",
  text "const BEARER_PREFIX = ", print (.filtered .quoted (var "bearer_prefix")), text ";\n",
  text "\n",
  text "/**\n",
  text " * ", name "adapter_title", text " authentication middleware (token-based)\n",
  text " *\n",
  text " * Requires an `Authorization: Bearer <token>` header. The token itself is\n",
  text " * validated by the host application.\n",
  text " */\n",
  text "export function authMiddleware(req: Request, res: Response, next: NextFunction): void \x7b\n",
  text "  const authHeader = req.headers.authorization;\n",
  text "  const token = authHeader?.startsWith(BEARER_PREFIX)\n",
  text "    ? authHeader.slice(BEARER_PREFIX.length)\n",
  text "    : '';\n",
  text "\n",
  text "  if (!token) \x7b\n",
  text "    res.status(401).json(\x7b code: ",
  print (.filtered .quoted (.path "unauthorized" ["code"])), text ", message: ",
  print (.filtered .quoted (.path "unauthorized" ["message"])), text " \x7d);\n",
  text "    return;\n",
  text "  \x7d\n",
  text "\n",
  text "  res.locals.credential = token;\n",
  text "  res.locals.deviceId = req.headers['x-device-id'];\n",
  text "  res.locals.appVersion = req.headers['x-app-version'];\n",
  text "  next();\n",
  text "\x7d\n"]

def errorHandler : Template := [
  text "import \x7b Request, Response, NextFunction \x7d from 'express';\n",
  text "import \x7b DomainError \x7d from '@corebridge/core';\n",
  text "\n",
  text "/**\n",
  text " * Central error handler\n",
  text " */\n",
  text "export function errorHandler(\n",
  text "  error: Error,\n",
  text "  _req: Request,\n",
  text "  res: Response,\n",
  text "  _next: NextFunction\n",
  text "): void \x7b\n",
  text "  if (error instanceof DomainError) \x7b\n",
  text "    res.status(error.statusCode).json(error.toJSON());\n",
  text "    return;\n",
  text "  \x7d\n",
  text "\n",
  text "  console.error('Unhandled error:', error);\n",
  text "  res.status(500).json(\x7b\n",
  text "    code: 'INTERNAL_ERROR',\n",
  text "    message: 'An unexpected error occurred',\n",
  text "  \x7d);\n",
  text "\x7d\n"]

def request : Template := [
  text "import \x7b Request, Response \x7d from 'express';\n",
  text "\n",
  text "/**\n",
  text " * Transform HTTP request to core input\n",
  text " */\n",
  text "export function transformRequest<T>(req: Request): T \x7b\n",
  text "  return \x7b\n",
  text "    ...req.body,\n",
  text "    ...req.query,\n",
  text "    ...req.params,\n",
  text "  \x7d as T;\n",
  text "\x7d\n",
  text "\n",
  text "/**\n",
  text " * Credential attached by the auth middleware\n",
  text " */\n",
  text "export function getCredential(res: Response): string \x7b\n",
  text "  return (res.locals.credential as string | undefined) ?? '';\n",
  text "\x7d\n"]

def plainResponse : Template := [
  text "import \x7b Response \x7d from 'express';\n",
  text "\n",
  text "/**\n",
  text " * Transform core output to HTTP response\n",
  text " */\n",
  text "export function sendResponse<T>(res: Response, data: T, statusCode = 200): void \x7b\n",
  text "  res.status(statusCode).json(data);\n",
  text "\x7d\n",
  text "\n",
  text "/**\n",
  text " * Send created response\n",
  text " */\n",
  text "export function sendCreated<T>(res: Response, data: T): void \x7b\n",
  text "  res.status(201).json(data);\n",
  text "\x7d\n",
  text "\n",
  text "/**\n",
  text " * Send no content response (204)\n",
  text " */\n",
  text "export function sendNoContent(res: Response): void \x7b\n",
  text "  res.status(204).end();\n",
  text "\x7d\n"]

def offlineResponse : Template := [
  text "import \x7b Response \x7d from 'express';\n",
  text "import \x7b OperationId \x7d from '@corebridge/contracts';\n",
  text "import \x7b noCache, wrapWithOfflineFlags \x7d from '../extensions/offline.js';\n",
  text "\n",
  text "/**\n",
  text " * Send successful JSON response with offline flags\n",
  text " */\n",
  text "export function sendResponse<T extends object>(\n",
  text "  res: Response,\n",
  text "  data: T,\n",
  text "  operation: OperationId,\n",
  text "  statusCode = 200\n",
  text "): void \x7b\n",
  text "  res.status(statusCode).json(wrapWithOfflineFlags(data, operation));\n",
  text "\x7d\n",
  text "\n",
  text "/**\n",
  text " * Send created response\n",
  text " */\n",
  text "export function sendCreated<T extends object>(res: Response, data: T, operation: OperationId): void \x7b\n",
  text "  res.status(201).json(wrapWithOfflineFlags(data, operation));\n",
  text "\x7d\n",
  text "\n",
  text "/**\n",
  text " * Send no content response (204)\n",
  text " */\n",
  text "export function sendNoContent(res: Response): void \x7b\n",
  text "  res.status(204).end();\n",
  text "\x7d\n",
  text "\n",
  text "/**\n",
  text " * Send response without caching\n",
  text " */\n",
  text "export function sendNoCacheResponse<T extends object>(res: Response, data: T, statusCode = 200): void \x7b\n",
  text "  res.status(statusCode).json(noCache(data));\n",
  text "\x7d\n"]

def cursorPagination : Template := [
  text "/**\n",
  text " * Cursor-based pagination for infinite scroll\n",
  text " */\n",
  text "export interface CursorPaginationParams \x7b\n",
  text "  cursor?: string;\n",
  text "  limit: number;\n",
  text "\x7d\n",
  text "\n",
  text "export interface CursorPaginatedResponse<T> \x7b\n",
  text "  data: T[];\n",
  text "  pagination: \x7b\n",
  text "    hasMore: boolean;\n",
  text "    nextCursor: string | null;\n",
  text "  \x7d;\n",
  text "\x7d\n",
  text "\n",
  text "export function parseCursorPagination(query: Record<string, unknown>): CursorPaginationParams \x7b\n",
  text "  const limit = parseInt(String(query.limit ?? ''), 10) || ", name "default_limit", text ";\n",
  text "  return \x7b\n",
  text "    cursor: typeof query.cursor === 'string' ? query.cursor : undefined,\n",
  text "    limit: Math.min(limit, ", name "max_limit", text "),\n",
  text "  \x7d;\n",
  text "\x7d\n",
  text "\n",
  text "export function wrapCursorPagination<T>(\n",
  text "  items: T[],\n",
  text "  hasMore: boolean,\n",
  text "  getCursor: (item: T) => string\n",
  text "): CursorPaginatedResponse<T> \x7b\n",
  text "  return \x7b\n",
  text "    data: items,\n",
  text "    pagination: \x7b\n",
  text "      hasMore,\n",
  text "      nextCursor: hasMore && items.length > 0 ? getCursor(items[items.length - 1]) : null,\n",
  text "    \x7d,\n",
  text "  \x7d;\n",
  text "\x7d\n"]

def offsetPagination : Template := [
  text "/**\n",
  text " * Offset-based pagination with total count\n",
  text " */\n",
  text "export interface OffsetPaginationParams \x7b\n",
  text "  offset: number;\n",
  text "  limit: number;\n",
  text "\x7d\n",
  text "\n",
  text "export interface OffsetPaginatedResponse<T> \x7b\n",
  text "  data: T[];\n",
  text "  pagination: \x7b\n",
  text "    total: number;\n",
  text "    offset: number;\n",
  text "    limit: number;\n",
  text "    hasMore: boolean;\n",
  text "  \x7d;\n",
  text "\x7d\n",
  text "\n",
  text "export function parseOffsetPagination(query: Record<string, unknown>): OffsetPaginationParams \x7b\n",
  text "  const limit = parseInt(String(query.limit ?? ''), 10) || ", name "default_limit", text ";\n",
  text "  return \x7b\n",
  text "    offset: parseInt(String(query.offset ?? ''), 10) || 0,\n",
  text "    limit: Math.min(limit, ", name "max_limit", text "),\n",
  text "  \x7d;\n",
  text "\x7d\n",
  text "\n",
  text "export function wrapOffsetPagination<T>(\n",
  text "  items: T[],\n",
  text "  total: number,\n",
  text "  offset: number,\n",
  text "  limit: number\n",
  text "): OffsetPaginatedResponse<T> \x7b\n",
  text "  return \x7b\n",
  text "    data: items,\n",
  text "    pagination: \x7b\n",
  text "      total,\n",
  text "      offset,\n",
  text "      limit,\n",
  text "      hasMore: offset + items.length < total,\n",
  text "    \x7d,\n",
  text "  \x7d;\n",
  text "\x7d\n"]

def offline : Template := [
  text "import \x7b OperationId \x7d from '@corebridge/contracts';\n",
  text "\n",
  text "/**\n",
  text " * Offline support for the ", name "adapter_id", text " adapter\n",
  text " */\n",
  text "export interface CacheableFlags \x7b\n",
  text "  cacheable: true;\n",
  text "  ttl: number;\n",
  text "  version: number;\n",
  text "\x7d\n",
  text "\n",
  text "export interface NoCacheFlags \x7b\n",
  text "  cacheable: false;\n",
  text "\x7d\n",
  text "\n",
  text "export type OfflineFlags = CacheableFlags | NoCacheFlags;\n",
  text "\n",
  text "// Seconds each cacheable operation may be served from the device cache.\n",
  text "const CACHE_TTL: Partial<Record<OperationId, number>> = \x7b\n",
  forEntries "operation_id" "policy" (var "cache_policy") (.path "policy" ["cacheable"]) [
    text "  ", name "operation_id", text ": ", field "policy" ["ttl"], text ",\n"],
  text "\x7d;\n",
  text "\n",
  text "const QUEUEABLE_OPERATIONS = new Set<OperationId>([\n",
  forEntries "operation_id" "policy" (var "cache_policy") (.path "policy" ["queueable"]) [
    text "  '", name "operation_id", text "',\n"],
  text "]);\n",
  text "\n",
  text "export function getOfflineFlags(operation: OperationId): OfflineFlags \x7b\n",
  text "  const ttl = CACHE_TTL[operation];\n",
  text "  if (ttl === undefined) \x7b\n",
  text "    return \x7b cacheable: false \x7d;\n",
  text "  \x7d\n",
  text "  return \x7b cacheable: true, ttl, version: Date.now() \x7d;\n",
  text "\x7d\n",
  text "\n",
  text "export function canQueueOffline(operation: OperationId): boolean \x7b\n",
  text "  return QUEUEABLE_OPERATIONS.has(operation);\n",
  text "\x7d\n",
  text "\n",
  text "/**\n",
  text " * Wrap data with offline flags\n",
  text " */\n",
  text "export function wrapWithOfflineFlags<T extends object>(\n",
  text "  data: T,\n",
  text "  operation: OperationId\n",
  text "): T & \x7b _offline: OfflineFlags \x7d \x7b\n",
  text "  return \x7b\n",
  text "    ...data,\n",
  text "    _offline: getOfflineFlags(operation),\n",
  text "  \x7d;\n",
  text "\x7d\n",
  text "\n",
  text "/**\n",
  text " * Wrap data with no-cache flag\n",
  text " */\n",
  text "export function noCache<T extends object>(data: T): T & \x7b _offline: NoCacheFlags \x7d \x7b\n",
  text "  return \x7b\n",
  text "    ...data,\n",
  text "    _offline: \x7b cacheable: false \x7d,\n",
  text "  \x7d;\n",
  text "\x7d\n"]

def controller : Template := [
  text "import \x7b Router, Request, Response, NextFunction \x7d from 'express';\n",
  text "import \x7b\n",
  forEach "handler" (var "handlers") [
    text "  ", field "handler" ["route", "operation_id"], text ",\n",
    text "  ", field "handler" ["deps_type"], text ",\n"] [],
  text "\x7d from '@corebridge/core';\n",
  text "import \x7b ", name "request_type", text " \x7d from '@corebridge/contracts';\n",
  text "import \x7b transformRequest \x7d from '../transformers/request.js';\n",
  text "import \x7b sendResponse, sendCreated \x7d from '../transformers/response.js';\n",
  when (.holds (var "cursor")) [
    text "import \x7b parseCursorPagination, wrapCursorPagination \x7d from '../extensions/pagination.js';\n"]
      [
    text "import \x7b parseOffsetPagination, wrapOffsetPagination \x7d from '../extensions/pagination.js';\n"],
  text "\n",
  text "export type ", field "domain" ["controller_name"], text "Deps = ",
  forEach "handler" (var "handlers") [
    field "handler" ["deps_type"], when (.fails (.path "loop" ["last"])) [text " & "] []] [],
  text ";\n",
  text "\n",
  text "/**\n",
  text " * ", field "domain" ["capitalized"], text " routes, mounted at ",
  field "domain" ["collection_path"], text "\n",
  text " */\n",
  text "export function ", field "domain" ["router_name"], text "(deps: ",
  field "domain" ["controller_name"], text "Deps): Router \x7b\n",
  text "  const router = Router();\n",
  forEach "handler" (var "handlers") [
    assign "route" (.path "handler" ["route"]),
    assign "op" (.path "route" ["operation_id"]),
    text "\n",
    text "  /**\n",
    text "   * ", field "route" ["method", "value"], text " ", field "route" ["path"], text " (",
    name "op", text ")\n",
    text "   */\n",
    text "  router.", print (.filtered .lowered (.path "route" ["method", "value"])), text "('",
    field "route" ["relative_path"],
    text "', async (req: Request, res: Response, next: NextFunction) => \x7b\n",
    text "    try \x7b\n",
    when (.equals (.path "route" ["kind", "value"]) "list") [
      when (.holds (var "cursor")) [
        text "      const \x7b cursor, limit \x7d = parseCursorPagination(req.query);\n",
        text "      const result = await ", name "op", text "(\x7b cursor, limit \x7d, deps);\n",
        text "      const page = wrapCursorPagination(result.items, result.hasMore, (item) => item.id);\n"] [
        text "      const \x7b offset, limit \x7d = parseOffsetPagination(req.query);\n",
        text "      const result = await ", name "op", text "(\x7b offset, limit \x7d, deps);\n",
        text "      const page = wrapOffsetPagination(result.items, result.total, offset, limit);\n"],
      text "      sendResponse(res, page",
      when (.holds (var "offline")) [text ", '", name "op", text "'"] [], text ");\n"] [
      when (.equals (.path "route" ["kind", "value"]) "create") [
        text "      const input = transformRequest<", name "request_type", text ">(req);\n",
        text "      const result = await ", name "op", text "(input, deps);\n",
        text "      sendCreated(res, result",
        when (.holds (var "offline")) [text ", '", name "op", text "'"] [], text ");\n"] [
        text "      const result = await ", name "op", text "(req.params.",
        print (.first (.path "route" ["path_params"])), text ", deps);\n",
        text "      sendResponse(res, result",
        when (.holds (var "offline")) [text ", '", name "op", text "'"] [], text ");\n"]],
    text "    \x7d catch (error) \x7b\n",
    text "      next(error);\n",
    text "    \x7d\n",
    text "  \x7d);\n"] [],
  text "\n",
  text "  return router;\n",
  text "\x7d\n"]

def index : Template := [
  text "import \x7b Router \x7d from 'express';\n",
  when (.holds (var "session")) [
    text "import cookieParser from 'cookie-parser';\n"] [],
  text "import \x7b authMiddleware \x7d from './middleware/auth.js';\n",
  text "import \x7b errorHandler \x7d from './middleware/errorHandler.js';\n",
  forEach "domain" (var "domains") [
    text "import \x7b ", field "domain" ["router_name"], text ", ", field "domain" ["controller_name"],
    text "Deps \x7d from './controllers/", field "domain" ["controller_name"], text ".js';\n"] [],
  text "\n",
  text "// Export middleware\n",
  text "export \x7b authMiddleware \x7d from './middleware/auth.js';\n",
  text "export \x7b errorHandler \x7d from './middleware/errorHandler.js';\n",
  text "\n",
  text "// Export extensions\n",
  forEach "module" (var "extension_modules") [
    text "export * from './extensions/", name "module", text ".js';\n"] [],
  text "\n",
  text "/**\n",
  text " * Use-case dependencies for every mounted domain\n",
  text " */\n",
  text "export interface ", name "adapter_title", text "AdapterDeps \x7b\n",
  forEach "domain" (var "domains") [
    text "  ", field "domain" ["token"], text ": ", field "domain" ["controller_name"], text "Deps;\n"] [],
  text "\x7d\n",
  text "\n",
  text "/**\n",
  text " * Create ", name "adapter_id", text " adapter router\n",
  text " */\n",
  text "export function ", name "router_factory", text "(deps: ", name "adapter_title",
  text "AdapterDeps): Router \x7b\n",
  text "  const router = Router();\n",
  text "\n",
  when (.holds (var "session")) [
    text "  router.use(cookieParser());\n"] [],
  text "  // Apply auth middleware\n",
  text "  router.use(authMiddleware);\n",
  text "\n",
  text "  // Mount domain routers\n",
  forEach "mount" (var "mounts") [
    text "  router.use('", field "mount" ["path"], text "', ", field "mount" ["domain", "router_name"],
    text "(deps.", field "mount" ["domain", "token"], text "));\n"] [],
  text "\n",
  text "  // Error handler\n",
  text "  router.use(errorHandler);\n",
  text "\n",
  text "  return router;\n",
  text "\x7d\n"]

end ApiScaffold.Template.Adapter
